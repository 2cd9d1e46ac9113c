import AgentHosting.Lib.Pool

/-!
# AgentHosting.Lib.Gate

Programs in front of a gate that lets some calls through and answers the others itself, and what
they can still return.

* `gated`          — a program whose refused calls are answered at once.
* `gated_eq`       — a gate that lets every call of a program through changes nothing.
* `ReturnsGiven`   — what a program returns if the answers to its calls are of some kind; `gated`
  keeps it when a refusal is of this kind.
-/

namespace AgentHosting

namespace Prog

variable {C : Type} {R : C → Type} {α β ε : Type}

def gated (allowed : C → Bool) (refused : (c : C) → R c) : Prog C R α → Prog C R α
  | .ret a => .ret a
  | .call c k =>
    if allowed c then .call c fun r => gated allowed refused (k r)
    else gated allowed refused (k (refused c))

section Gated

variable {allowed : C → Bool} {refused : (c : C) → R c}

theorem gated_call {c : C} (h : allowed c = true) (k : R c → Prog C R α) :
    gated allowed refused (.call c k) = .call c fun r => gated allowed refused (k r) := by
  rw [gated, if_pos h]

theorem gated_refused {c : C} (h : allowed c = false) (k : R c → Prog C R α) :
    gated allowed refused (.call c k) = gated allowed refused (k (refused c)) := by
  rw [gated, h, if_neg Bool.false_ne_true]

theorem gated_bind (p : Prog C R α) (f : α → Prog C R β) :
    gated allowed refused (p.bind f) =
      (gated allowed refused p).bind fun a => gated allowed refused (f a) := by
  induction p with
  | ret a => rfl
  | call c k ih =>
    cases hc : allowed c with
    | true =>
      rw [call_bind, gated_call hc, gated_call hc, call_bind]
      exact congrArg _ (funext ih)
    | false =>
      rw [call_bind, gated_refused hc, gated_refused hc]
      exact ih _

theorem gated_andThen (p : Prog C R (Except ε α)) (f : α → Prog C R (Except ε β)) :
    gated allowed refused (andThen p f) =
      andThen (gated allowed refused p) fun a => gated allowed refused (f a) := by
  rw [andThen, gated_bind]
  refine congrArg _ (funext fun r => ?_)
  cases r <;> rfl

theorem gated_allCalls {A : C → Prop} {p : Prog C R α} (h : p.AllCalls A) :
    (gated allowed refused p).AllCalls fun c => A c ∧ allowed c = true := by
  induction p with
  | ret a => trivial
  | call c k ih =>
    cases hc : allowed c with
    | true =>
      rw [gated_call hc]
      exact ⟨⟨h.1, hc⟩, fun r => ih r (h.2 r)⟩
    | false =>
      rw [gated_refused hc]
      exact ih _ (h.2 _)

end Gated

/-! ## Returns, given answers of some kind -/

def ReturnsGiven (ok : (c : C) → R c → Prop) (B : α → Prop) : Prog C R α → Prop
  | .ret a => B a
  | .call c k => ∀ r, ok c r → ReturnsGiven ok B (k r)

section ReturnsGiven

variable {ok : (c : C) → R c → Prop}

theorem Returns.given {B : α → Prop} {p : Prog C R α} (h : p.Returns B) : p.ReturnsGiven ok B := by
  induction p with
  | ret a => exact h
  | call c k ih => exact fun r _ => ih r (h r)

theorem ReturnsGiven.bind {B : β → Prop} {p : Prog C R α} {f : α → Prog C R β}
    (h : p.ReturnsGiven ok fun a => (f a).ReturnsGiven ok B) : (p.bind f).ReturnsGiven ok B := by
  induction p with
  | ret a => exact h
  | call c k ih => exact fun r hr => ih r (h r hr)

theorem ReturnsGiven.mono {B B' : α → Prop} (hB : ∀ a, B a → B' a) {p : Prog C R α}
    (h : p.ReturnsGiven ok B) : p.ReturnsGiven ok B' := by
  induction p with
  | ret a => exact hB a h
  | call c k ih => exact fun r hr => ih r (h r hr)

theorem ReturnsGiven.gated {allowed : C → Bool} {refused : (c : C) → R c}
    (hrefused : ∀ c, ok c (refused c)) {B : α → Prop} {p : Prog C R α} (h : p.ReturnsGiven ok B) :
    (Prog.gated allowed refused p).ReturnsGiven ok B := by
  induction p with
  | ret a => exact h
  | call c k ih =>
    cases hc : allowed c with
    | true =>
      rw [gated_call hc]
      exact fun r hr => ih r (h r hr)
    | false =>
      rw [gated_refused hc]
      exact ih _ (h _ (hrefused c))

end ReturnsGiven

end Prog

namespace Pool

open Prog

variable {ι C α σ : Type} {R : C → Type} [DecidableEq ι] {spawns : ι → Prog C R α → Prop}
  {serves : σ → (c : C) → R c → σ → Prop} {env : σ → σ → Prop}

/-- Where a state property makes every answer of that kind, what the programs return so far holds
along a run. -/
theorem returns_step {ok : (c : C) → R c → Prop} {B : ι → α → Prop}
    (hspawn : ∀ i p, spawns i p → p.ReturnsGiven ok (B i)) {w w' : Pool ι C R α σ}
    {l : Label ι C R α} (hanswer : ∀ i c r, l = .call i c r → ok c r)
    (h : w.ProgsIn fun i p => p.ReturnsGiven ok (B i)) (hs : Step spawns serves env w l w') :
    w'.ProgsIn fun i p => p.ReturnsGiven ok (B i) := by
  cases hs with
  | spawn _ hp => exact h.setProg fun q hq => by cases hq; exact hspawn _ _ hp
  | @call i c k r s' hi _ =>
    have hw : ({ w with state := s' } : Pool ι C R α σ).ProgsIn fun i p =>
      p.ReturnsGiven ok (B i) := h
    exact hw.setProg fun q hq => by cases hq; exact h _ _ hi r (hanswer i c r rfl)
  | exit _ => exact h.setProg fun q hq => by cases hq
  | env _ => exact h

end Pool

end AgentHosting
