import AgentHosting.Lib.Pool

/-!
# AgentHosting.Lib.Rely

Rely and guarantee for the programs of a pool. What each program relies on is a relation on states
that the steps of all others keep; what it guarantees is a condition on every call it makes, in the
state the call is served in.

* `Safe P p s`   — whatever the answers, and whatever the others do in between, every call of `p`
  from `s` on meets its condition `P`.
* `Safe.bind`    — a safe program continues with one that is safe wherever the first one ends.
* `AllCalls.safe_andThen` — a program that keeps a property leaves it to what comes next.
* `Passes`         — the states that a run can pass through; `Safe.passes` is about these.
* `Pool.safe_step` — programs that guarantee what the others rely on stay safe together.
-/

namespace AgentHosting

namespace Prog

variable {C : Type} {R : C → Type} {σ α β ε : Type}

def Safe (serves : σ → (c : C) → R c → σ → Prop) (rely : σ → σ → Prop) (P : σ → C → Prop) :
    Prog C R α → σ → Prop
  | .ret _, _ => True
  | .call c k, s => ∀ s1, Relation.ReflTransGen rely s s1 →
      P s1 c ∧ ∀ r s2, serves s1 c r s2 → Safe serves rely P (k r) s2
termination_by structural p => p

variable {serves : σ → (c : C) → R c → σ → Prop} {rely : σ → σ → Prop} {P : σ → C → Prop}

theorem Safe.of_rely {p : Prog C R α} {s s1 : σ} (h : Safe serves rely P p s)
    (hs : Relation.ReflTransGen rely s s1) : Safe serves rely P p s1 := by
  cases p with
  | ret a => trivial
  | call c k => exact fun s2 h2 => h s2 (hs.trans h2)

theorem Safe.bind {p : Prog C R α} {f : α → Prog C R β} {s : σ} (h : Safe serves rely P p s)
    (hf : wp serves rely (fun _ a s' => Safe serves rely P (f a) s') p s) :
    Safe serves rely P (p.bind f) s := by
  induction p generalizing s with
  | ret a => exact hf s .refl
  | call c k ih =>
    intro s1 h1
    obtain ⟨hcall, hnext⟩ := h s1 h1
    exact ⟨hcall, fun r s2 hs => ih r (hnext r s2 hs) (hf s1 h1 r s2 hs)⟩

theorem Safe.andThen {p : Prog C R (Except ε α)} {f : α → Prog C R (Except ε β)} {s : σ}
    (h : Safe serves rely P p s)
    (hf : wp serves rely (fun _ r s' => ∀ a, r = .ok a → Safe serves rely P (f a) s') p s) :
    Safe serves rely P (andThen p f) s := by
  refine h.bind (wp_mono hf fun _ r s' hr => ?_)
  cases r with
  | ok a => exact hr a rfl
  | error e => trivial

/-- A program that can only make calls in `A`, from states with a property that the others and these
calls keep and that makes the calls safe. -/
theorem AllCalls.safe {A : C → Prop} {I : σ → Prop} (hrely : ∀ s s', I s → rely s s' → I s')
    (hserves : ∀ s c r s', I s → A c → serves s c r s' → I s') (hcall : ∀ s c, I s → A c → P s c)
    {p : Prog C R α} (h : AllCalls A p) {s : σ} (hi : I s) : Safe serves rely P p s := by
  induction p generalizing s with
  | ret a => trivial
  | call c k ih =>
    intro s1 h1
    have hi1 : I s1 := by
      induction h1 with
      | refl => exact hi
      | tail _ hs ih => exact hrely _ _ ih hs
    exact ⟨hcall s1 c hi1 h.1, fun r s2 hs => ih r (h.2 r) (hserves s1 c r s2 hi1 h.1 hs)⟩

/-- Such a program leaves the property to what comes after it. -/
theorem AllCalls.safe_andThen {A : C → Prop} {I : σ → Prop}
    (hrely : ∀ s s', I s → rely s s' → I s')
    (hserves : ∀ s c r s', I s → A c → serves s c r s' → I s') (hcall : ∀ s c, I s → A c → P s c)
    {p : Prog C R (Except ε α)} (h : AllCalls A p) {f : α → Prog C R (Except ε β)}
    (hf : ∀ a s, I s → Safe serves rely P (f a) s) {s : σ} (hi : I s) :
    Safe serves rely P (Prog.andThen p f) s := by
  have hkeeps : wp serves rely (fun _ _ s' => I s → I s') p s :=
    wp_collect (P := fun s _ s' => I s → I s') (fun _ hi => hi)
      (fun _ _ _ _ hs hrest hi => hrest (hrely _ _ hi hs))
      (fun _ _ _ _ _ _ hc hs hrest hi => hrest (hserves _ _ _ _ hi hc hs)) h s
  exact (h.safe hrely hserves hcall hi).andThen
    (wp_mono hkeeps fun _ _ s' hs' a _ => hf a s' (hs' hi))

/-- A state that some run of the program from a state can pass through, at its end or before. -/
inductive Passes (serves : σ → (c : C) → R c → σ → Prop) (rely : σ → σ → Prop) :
    Prog C R α → σ → σ → Prop where
  | here {p : Prog C R α} {s : σ} : Passes serves rely p s s
  | env {p : Prog C R α} {s s1 s' : σ} : rely s s1 → Passes serves rely p s1 s' →
      Passes serves rely p s s'
  | call {c : C} {k : R c → Prog C R α} {r : R c} {s s1 s' : σ} : serves s c r s1 →
      Passes serves rely (k r) s1 s' → Passes serves rely (.call c k) s s'

/-- What the others keep, and every call that meets its condition, holds all along. -/
theorem Safe.passes {I : σ → Prop} (hrely : ∀ s s', I s → rely s s' → I s')
    (hserves : ∀ s c r s', I s → P s c → serves s c r s' → I s') {p : Prog C R α} {s s' : σ}
    (hp : Passes serves rely p s s') (h : Safe serves rely P p s) (hi : I s) : I s' := by
  induction hp with
  | here => exact hi
  | env hs _ ih => exact ih (h.of_rely (.single hs)) (hrely _ _ hi hs)
  | call hs _ ih =>
    obtain ⟨hcall, hnext⟩ := h _ .refl
    exact ih (hnext _ _ hs) (hserves _ _ _ _ hi hcall hs)

end Prog

namespace Pool

open Prog

variable {ι C α σ : Type} {R : C → Type} {serves : σ → (c : C) → R c → σ → Prop}
  {rely env : σ → σ → Prop} {P : σ → C → Prop} {spawns : ι → Prog C R α → Prop}

def AllSafe (serves : σ → (c : C) → R c → σ → Prop) (rely : σ → σ → Prop) (P : σ → C → Prop)
    (w : Pool ι C R α σ) : Prop :=
  w.ProgsIn fun _ p => Safe serves rely P p w.state

/-- The next call of a safe program meets its condition. -/
theorem AllSafe.call {w : Pool ι C R α σ} (h : w.AllSafe serves rely P) {i : ι} {c : C}
    {k : R c → Prog C R α} (hp : w.progs i = some (.call c k)) : P w.state c :=
  (h i _ hp w.state .refl).1

variable [DecidableEq ι]

/-- Where every guaranteed call, and every step of the environment, is one the programs rely on,
they stay safe. -/
theorem safe_step {w w' : Pool ι C R α σ} {l : Label ι C R α}
    (hspawn : ∀ i p, spawns i p → Safe serves rely P p w.state)
    (hguarantee : ∀ s c r s', P s c → serves s c r s' → rely s s')
    (henv : ∀ s s', env s s' → rely s s') (h : w.AllSafe serves rely P)
    (hs : Step spawns serves env w l w') : w'.AllSafe serves rely P := by
  cases hs with
  | spawn _ hp => exact h.setProg fun q hq => by cases hq; exact hspawn _ _ hp
  | @call i c k r s' hp hserve =>
    have hrely : rely w.state s' := hguarantee _ _ _ _ (h.call hp) hserve
    have hothers : ({ w with state := s' } : Pool ι C R α σ).AllSafe serves rely P :=
      fun j q hq => (h j q hq).of_rely (.single hrely)
    exact hothers.setProg fun q hq => by cases hq; exact (h i _ hp w.state .refl).2 r s' hserve
  | exit _ => exact h.setProg fun q hq => by cases hq
  | env he => exact fun j q hq => (h j q hq).of_rely (.single (henv _ _ he))

end Pool

end AgentHosting
