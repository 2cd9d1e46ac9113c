import Mathlib.Logic.Relation
import Mathlib.Logic.Function.Basic

/-!
# AgentHosting.Lib.Prog

Programs that act on a shared state only through calls. A program is a finite tree: it returns, or
makes a call and continues with the answer. What a call does is not part of the program; it is the
relation `serves`, and between two calls the environment may change the state by `env` steps.

* `Exec p s tr a s'` — some run of `p` from `s` makes the calls `tr`, returns `a` and leaves `s'`.
* `wp Q p s`         — every such run satisfies the postcondition `Q tr a s'`; it is computed along
  the tree, and `exec_wp` is its soundness.
* `run`              — the run under a server that is a function, with nobody else around.
* `AllCalls A p`     — whatever the answers, `p` makes only calls in `A`; `AllNodes` also looks at
  what it does next.

`wp` is stable under the environment (`wp_env`), so a program verified against an environment can
be put next to any others whose steps are among those of that environment.
-/

namespace AgentHosting

/-- A program returning an `α`, whose calls `c : C` are answered by an `R c`. -/
inductive Prog (C : Type) (R : C → Type) (α : Type) where
  | ret (a : α)
  | call (c : C) (k : R c → Prog C R α)

namespace Prog

variable {C : Type} {R : C → Type} {σ α β ε : Type}

def bind : Prog C R α → (α → Prog C R β) → Prog C R β
  | .ret a, f => f a
  | .call c k, f => .call c fun r => (k r).bind f

instance : Monad (Prog C R) where
  pure := .ret
  bind := .bind

/-- The program that makes one call and returns its answer. -/
def perform (c : C) : Prog C R (R c) := .call c .ret

@[simp] theorem pure_eq (a : α) : (pure a : Prog C R α) = .ret a := rfl

@[simp] theorem bind_eq (p : Prog C R α) (f : α → Prog C R β) : p >>= f = p.bind f := rfl

@[simp] theorem ret_bind (a : α) (f : α → Prog C R β) : (ret a : Prog C R α).bind f = f a := rfl

@[simp] theorem call_bind (c : C) (k : R c → Prog C R α) (f : α → Prog C R β) :
    (call c k).bind f = .call c fun r => (k r).bind f := rfl

@[simp] theorem perform_bind (c : C) (f : R c → Prog C R β) :
    (perform c).bind f = .call c f := rfl

/-! ## Calls a program can make -/

/-- Whatever the answers, every call of the program is in `A`. -/
def AllCalls (A : C → Prop) : Prog C R α → Prop
  | .ret _ => True
  | .call c k => A c ∧ ∀ r, AllCalls A (k r)

@[simp] theorem allCalls_call (A : C → Prop) (c : C) (k : R c → Prog C R α) :
    AllCalls A (call c k) ↔ A c ∧ ∀ r, AllCalls A (k r) := Iff.rfl

theorem AllCalls.bind {A : C → Prop} {p : Prog C R α} {f : α → Prog C R β} (hp : AllCalls A p)
    (hf : ∀ a, AllCalls A (f a)) : AllCalls A (p.bind f) := by
  induction p with
  | ret a => exact hf a
  | call c k ih => exact ⟨hp.1, fun r => ih r (hp.2 r)⟩

theorem AllCalls.mono {A B : C → Prop} (h : ∀ c, A c → B c) {p : Prog C R α}
    (hp : AllCalls A p) : AllCalls B p := by
  induction p with
  | ret a => trivial
  | call c k ih => exact ⟨h c hp.1, fun r => ih r (hp.2 r)⟩

/-- Whatever the answers, `N` holds of every call of the program with what the program does next. -/
def AllNodes (N : (c : C) → (R c → Prog C R α) → Prop) : Prog C R α → Prop
  | .ret _ => True
  | .call c k => N c k ∧ ∀ r, AllNodes N (k r)

theorem AllCalls.allNodes {A : C → Prop} {N : (c : C) → (R c → Prog C R α) → Prop}
    (h : ∀ c k, A c → N c k) {p : Prog C R α} (hp : AllCalls A p) : AllNodes N p := by
  induction p with
  | ret a => trivial
  | call c k ih => exact ⟨h c k hp.1, fun r => ih r (hp.2 r)⟩

/-- Whatever the answers, what the program returns is in `B`. -/
def Returns (B : α → Prop) : Prog C R α → Prop
  | .ret a => B a
  | .call _ k => ∀ r, Returns B (k r)

theorem Returns.bind {B : β → Prop} {p : Prog C R α} {f : α → Prog C R β}
    (h : p.Returns fun a => (f a).Returns B) : (p.bind f).Returns B := by
  induction p with
  | ret a => exact h
  | call c k ih => exact fun r => ih r (h r)

theorem Returns.mono {B B' : α → Prop} (h : ∀ a, B a → B' a) {p : Prog C R α} (hp : p.Returns B) :
    p.Returns B' := by
  induction p with
  | ret a => exact h a hp
  | call c k ih => exact fun r => ih r (hp r)

theorem returns_of_forall {B : α → Prop} (h : ∀ a, B a) (p : Prog C R α) : p.Returns B := by
  induction p with
  | ret a => exact h a
  | call c k ih => exact ih

/-- The program, given up when it would make one call more than `n`. -/
def upTo : Prog C R α → Nat → Prog C R (Option α)
  | .ret a, _ => .ret (some a)
  | .call _ _, 0 => .ret none
  | .call c k, n + 1 => .call c fun r => (k r).upTo n

theorem AllCalls.upTo {A : C → Prop} {p : Prog C R α} (h : AllCalls A p) (n : Nat) :
    AllCalls A (p.upTo n) := by
  induction p generalizing n with
  | ret a => trivial
  | call c k ih =>
    cases n with
    | zero => trivial
    | succ n => exact ⟨h.1, fun r => ih r (h.2 r) n⟩

/-! ## Runs -/

/-- One answered call of a run: the state it was served in, and the state it left. -/
structure Event (σ : Type) (C : Type) (R : C → Type) where
  pre : σ
  call : C
  answer : R call
  post : σ

variable (serves : σ → (c : C) → R c → σ → Prop) (env : σ → σ → Prop)

inductive Exec : Prog C R α → σ → List (Event σ C R) → α → σ → Prop where
  | ret {a : α} {s : σ} : Exec (.ret a) s [] a s
  | env {p : Prog C R α} {s s1 s' : σ} {tr : List (Event σ C R)} {a : α} :
      env s s1 → Exec p s1 tr a s' → Exec p s tr a s'
  | call {c : C} {k : R c → Prog C R α} {s s1 s' : σ} {r : R c} {tr : List (Event σ C R)} {a : α} :
      serves s c r s1 → Exec (k r) s1 tr a s' → Exec (.call c k) s (⟨s, c, r, s1⟩ :: tr) a s'

/-- Every run from `s` ends with the postcondition `Q`, a predicate on the calls made, the result
and the final state. -/
def wp : (List (Event σ C R) → α → σ → Prop) → Prog C R α → σ → Prop
  | Q, .ret a, s => ∀ s1, Relation.ReflTransGen env s s1 → Q [] a s1
  | Q, .call c k, s => ∀ s1, Relation.ReflTransGen env s s1 → ∀ r s2, serves s1 c r s2 →
      wp (fun tr => Q (⟨s1, c, r, s2⟩ :: tr)) (k r) s2
termination_by structural _ p _ => p

variable {serves : σ → (c : C) → R c → σ → Prop} {env : σ → σ → Prop}

/-- A verified program stays verified while only the environment moves. -/
theorem wp_env {Q : List (Event σ C R) → α → σ → Prop} {p : Prog C R α} {s s1 : σ}
    (h : wp serves env Q p s) (he : Relation.ReflTransGen env s s1) : wp serves env Q p s1 := by
  cases p with
  | ret a => exact fun s2 h2 => h s2 (he.trans h2)
  | call c k => exact fun s2 h2 => h s2 (he.trans h2)

theorem exec_wp {p : Prog C R α} {s s' : σ} {tr : List (Event σ C R)} {a : α}
    (he : Exec serves env p s tr a s') :
    ∀ {Q : List (Event σ C R) → α → σ → Prop}, wp serves env Q p s → Q tr a s' := by
  induction he with
  | ret => exact fun h => h _ .refl
  | env hs _ ih => exact fun h => ih (wp_env h (.single hs))
  | call hs _ ih => exact fun h => ih (h _ .refl _ _ hs)

theorem wp_mono {Q Q' : List (Event σ C R) → α → σ → Prop} {p : Prog C R α} {s : σ}
    (h : wp serves env Q p s) (hq : ∀ tr a s', Q tr a s' → Q' tr a s') :
    wp serves env Q' p s := by
  induction p generalizing Q Q' s with
  | ret a => exact fun s1 h1 => hq _ _ _ (h s1 h1)
  | call c k ih =>
    exact fun s1 h1 r s2 hs => ih r (h s1 h1 r s2 hs) fun tr a s' => hq _ a s'

theorem wp_of_forall {Q : List (Event σ C R) → α → σ → Prop} (h : ∀ tr a s', Q tr a s')
    (p : Prog C R α) (s : σ) : wp serves env Q p s := by
  induction p generalizing Q s with
  | ret a => exact fun s1 _ => h [] a s1
  | call c k ih => exact fun s1 _ r s2 _ => ih r (fun tr a s' => h _ a s') s2

theorem wp_bind {Q : List (Event σ C R) → β → σ → Prop} {p : Prog C R α}
    {f : α → Prog C R β} {s : σ} :
    wp serves env Q (p.bind f) s ↔
      wp serves env (fun tr a s' => wp serves env (fun tr' => Q (tr ++ tr')) (f a) s') p s := by
  induction p generalizing Q s with
  | ret a => exact ⟨fun h s1 h1 => wp_env h h1, fun h => h s .refl⟩
  | call c k ih =>
    refine ⟨fun h s1 h1 r s2 hs => ?_, fun h s1 h1 r s2 hs => ?_⟩
    · exact (ih r).mp (h s1 h1 r s2 hs)
    · exact (ih r).mpr (h s1 h1 r s2 hs)

/-- A server that does no more than another on the calls of the program. -/
theorem wp_serves {serves' : σ → (c : C) → R c → σ → Prop} {A : C → Prop}
    (h : ∀ s c r s', A c → serves' s c r s' → serves s c r s')
    {Q : List (Event σ C R) → α → σ → Prop} {p : Prog C R α} {s : σ} (ha : AllCalls A p)
    (hw : wp serves env Q p s) : wp serves' env Q p s := by
  induction p generalizing Q s with
  | ret a => exact hw
  | call c k ih =>
    exact fun s1 h1 r s2 hs => ih r (ha.2 r) (hw s1 h1 r s2 (h _ _ _ _ ha.1 hs))

/-- What environment steps and the calls of `A` add up to along a run: `P s tr s'` holds of every
stretch of a run when it holds of the empty one and is kept at the front. -/
theorem wp_collect {A : C → Prop} {P : σ → List (Event σ C R) → σ → Prop} (hnil : ∀ s, P s [] s)
    (henv : ∀ s s1 tr s', env s s1 → P s1 tr s' → P s tr s')
    (hcall : ∀ s c r s1 tr s', A c → serves s c r s1 → P s1 tr s' → P s (⟨s, c, r, s1⟩ :: tr) s')
    {p : Prog C R α} (h : AllCalls A p) (s : σ) :
    wp serves env (fun tr _ s' => P s tr s') p s := by
  have hstar : ∀ {s s1 : σ} {tr : List (Event σ C R)} {s' : σ}, Relation.ReflTransGen env s s1 →
      P s1 tr s' → P s tr s' := by
    intro s s1 tr s' hs
    induction hs using Relation.ReflTransGen.head_induction_on with
    | refl => exact id
    | head hs _ ih => exact fun h => henv _ _ _ _ hs (ih h)
  induction p generalizing s with
  | ret a => exact fun s1 h1 => hstar h1 (hnil s1)
  | call c k ih =>
    intro s1 h1 r s2 hs
    exact wp_mono (ih r (h.2 r) s2) fun tr _ s' htr => hstar h1 (hcall _ _ _ _ _ _ h.1 hs htr)

theorem exec_allCalls {A : C → Prop} {p : Prog C R α} {s s' : σ} {tr : List (Event σ C R)} {a : α}
    (he : Exec serves env p s tr a s') (h : AllCalls A p) : ∀ e ∈ tr, A e.call := by
  induction he with
  | ret => simp
  | env _ _ ih => exact ih h
  | call _ _ ih =>
    intro e hm
    rcases List.mem_cons.mp hm with rfl | hm
    · exact h.1
    · exact ih (h.2 _) e hm

theorem exec_returns {B : α → Prop} {p : Prog C R α} {s s' : σ} {tr : List (Event σ C R)} {a : α}
    (he : Exec serves env p s tr a s') (h : p.Returns B) : B a := by
  induction he with
  | ret => exact h
  | env _ _ ih => exact ih h
  | call _ _ ih => exact ih (h _)

theorem Exec.mono {serves' : σ → (c : C) → R c → σ → Prop}
    (h : ∀ s c r s', serves s c r s' → serves' s c r s') {p : Prog C R α} {s s' : σ}
    {tr : List (Event σ C R)} {a : α} (he : Exec serves env p s tr a s') :
    Exec serves' env p s tr a s' := by
  induction he with
  | ret => exact .ret
  | env hs _ ih => exact .env hs ih
  | call hs _ ih => exact .call (h _ _ _ _ hs) ih

theorem Exec.bind {p : Prog C R α} {f : α → Prog C R β} {s s1 s' : σ}
    {tr tr' : List (Event σ C R)} {a : α} {b : β} (he : Exec serves env p s tr a s1)
    (hf : Exec serves env (f a) s1 tr' b s') : Exec serves env (p.bind f) s (tr ++ tr') b s' := by
  induction he with
  | ret => exact hf
  | env hs _ ih => exact .env hs (ih hf)
  | call hs _ ih => exact .call hs (ih hf)

/-- Nothing is given up of a run that is short enough. -/
theorem Exec.upTo {p : Prog C R α} {s s' : σ} {tr : List (Event σ C R)} {a : α}
    (he : Exec serves env p s tr a s') {n : Nat} (hn : tr.length ≤ n) :
    Exec serves env (p.upTo n) s tr (some a) s' := by
  induction he generalizing n with
  | ret => exact .ret
  | env hs _ ih => exact .env hs (ih hn)
  | call hs _ ih =>
    cases n with
    | zero => exact absurd hn (Nat.not_succ_le_zero _)
    | succ n => exact .call hs (ih (Nat.le_of_succ_le_succ hn))

theorem exec_served {p : Prog C R α} {s s' : σ} {tr : List (Event σ C R)} {a : α}
    (he : Exec serves env p s tr a s') : ∀ e ∈ tr, serves e.pre e.call e.answer e.post := by
  induction he with
  | ret => simp
  | env _ _ ih => exact ih
  | call hs _ ih =>
    intro e hm
    rcases List.mem_cons.mp hm with rfl | hm
    · exact hs
    · exact ih e hm

/-- A property of the state that the environment and every served call of `A` keep holds at the
end of a run. -/
theorem exec_invariant {A : C → Prop} {I : σ → Prop} (henv : ∀ s s', I s → env s s' → I s')
    (hserves : ∀ s c r s', I s → A c → serves s c r s' → I s')
    {p : Prog C R α} {s s' : σ} {tr : List (Event σ C R)} {a : α}
    (he : Exec serves env p s tr a s') (h : AllCalls A p) (hi : I s) : I s' := by
  induction he with
  | ret => exact hi
  | env hs _ ih => exact ih h (henv _ _ hi hs)
  | call hs _ ih => exact ih (h.2 _) (hserves _ _ _ _ hi h.1 hs)

/-! ## Runs under a functional server -/

/-- The run of a program alone under a server that is a function. -/
def run (exec : σ → (c : C) → R c × σ) : Prog C R α → σ → α × σ
  | .ret a, s => (a, s)
  | .call c k, s => run exec (k (exec s c).1) (exec s c).2

def trace (exec : σ → (c : C) → R c × σ) : Prog C R α → σ → List (Event σ C R)
  | .ret _, _ => []
  | .call c k, s =>
    ⟨s, c, (exec s c).1, (exec s c).2⟩ :: trace exec (k (exec s c).1) (exec s c).2

/-- The rest of the program, and the state, after its first `n` calls. -/
def after (exec : σ → (c : C) → R c × σ) : Nat → Prog C R α → σ → Prog C R α × σ
  | 0, p, s => (p, s)
  | _ + 1, .ret a, s => (.ret a, s)
  | n + 1, .call c k, s => after exec n (k (exec s c).1) (exec s c).2

def next : Prog C R α → Option C
  | .ret _ => none
  | .call c _ => some c

theorem allCalls_after {A : C → Prop} (exec : σ → (c : C) → R c × σ) {p : Prog C R α}
    (h : AllCalls A p) (n : Nat) (s : σ) : AllCalls A (p.after exec n s).1 := by
  induction n generalizing p s with
  | zero => exact h
  | succ n ih =>
    cases p with
    | ret a => trivial
    | call c k => exact ih (h.2 _) _

theorem allCalls_next {A : C → Prop} {p : Prog C R α} (h : AllCalls A p) {c : C}
    (hc : p.next = some c) : A c := by
  cases p with
  | ret a => cases hc
  | call c' k =>
    obtain rfl := Option.some.inj hc
    exact h.1

/-- A functional server as a relation. -/
def Answers (exec : σ → (c : C) → R c × σ) (s : σ) (c : C) (r : R c) (s' : σ) : Prop :=
  exec s c = (r, s')

/-- Nobody else is around. -/
def Alone (_ _ : σ) : Prop := False

variable {exec : σ → (c : C) → R c × σ}

@[simp] theorem run_ret (a : α) (s : σ) : run exec (.ret a : Prog C R α) s = (a, s) := rfl

@[simp] theorem run_call (c : C) (k : R c → Prog C R α) (s : σ) :
    run exec (.call c k) s = run exec (k (exec s c).1) (exec s c).2 := rfl

theorem run_bind (p : Prog C R α) (f : α → Prog C R β) (s : σ) :
    run exec (p.bind f) s = run exec (f (run exec p s).1) (run exec p s).2 := by
  induction p generalizing s with
  | ret a => rfl
  | call c k ih => exact ih _ _

theorem trace_bind (p : Prog C R α) (f : α → Prog C R β) (s : σ) :
    trace exec (p.bind f) s =
      trace exec p s ++ trace exec (f (run exec p s).1) (run exec p s).2 := by
  induction p generalizing s with
  | ret a => rfl
  | call c k ih => simp only [call_bind, trace, ih, run_call, List.cons_append]

theorem trace_allCalls {A : C → Prop} {p : Prog C R α} (h : AllCalls A p) (s : σ) :
    ∀ e ∈ trace exec p s, A e.call := by
  induction p generalizing s with
  | ret a => simp [trace]
  | call c k ih =>
    intro e he
    rcases List.mem_cons.mp he with rfl | he
    · exact h.1
    · exact ih _ (h.2 _) _ e he

/-- The run is a run of the relation, whoever else may be around. -/
theorem run_exec (p : Prog C R α) (s : σ) :
    Exec (Answers exec) env p s (trace exec p s) (run exec p s).1 (run exec p s).2 := by
  induction p generalizing s with
  | ret a => exact .ret
  | call c k ih => exact .call rfl (ih _ _)

/-! ## Fallible programs -/

section Fallible

/-- Sequencing by the `?` operator: an error ends the program. -/
def andThen (p : Prog C R (Except ε α)) (f : α → Prog C R (Except ε β)) : Prog C R (Except ε β) :=
  p.bind fun
    | .ok a => f a
    | .error e => .ret (.error e)

theorem AllCalls.andThen {A : C → Prop} {p : Prog C R (Except ε α)}
    {f : α → Prog C R (Except ε β)} (hp : AllCalls A p) (hf : ∀ a, AllCalls A (f a)) :
    AllCalls A (andThen p f) := by
  refine hp.bind fun r => ?_
  cases r with
  | ok a => exact hf a
  | error e => trivial

/-- The last step of a fallible program decides what it returns. -/
theorem returns_andThen {B : Except ε β → Prop} (p : Prog C R (Except ε α))
    {f : α → Prog C R (Except ε β)} (herror : ∀ e, B (.error e)) (hf : ∀ a, (f a).Returns B) :
    (andThen p f).Returns B := by
  refine Returns.bind (returns_of_forall (fun r => ?_) p)
  cases r with
  | ok a => exact hf a
  | error e => exact herror e

theorem exceptT_bind (x : ExceptT ε (Prog C R) α) (f : α → ExceptT ε (Prog C R) β) :
    (x >>= f).run = andThen x.run fun a => (f a).run := by
  show Prog.bind _ _ = Prog.bind _ _
  congr 1
  funext r
  cases r <;> rfl

theorem wp_andThen {Q : List (Event σ C R) → Except ε β → σ → Prop} {p : Prog C R (Except ε α)}
    {f : α → Prog C R (Except ε β)} {s : σ}
    (h : wp serves env (fun tr r s' => match r with
      | .ok a => wp serves env (fun tr' => Q (tr ++ tr')) (f a) s'
      | .error e => ∀ s1, Relation.ReflTransGen env s' s1 → Q tr (.error e) s1) p s) :
    wp serves env Q (andThen p f) s := by
  refine wp_bind.mpr (wp_mono h ?_)
  intro tr r s' hr
  cases r with
  | ok a => exact hr
  | error e => intro s1 h1; simpa using hr s1 h1

theorem run_andThen (p : Prog C R (Except ε α)) (f : α → Prog C R (Except ε β)) (s : σ) :
    run exec (andThen p f) s =
      match run exec p s with
      | (.ok a, s') => run exec (f a) s'
      | (.error e, s') => (.error e, s') := by
  simp only [andThen, run_bind]
  rcases run exec p s with ⟨_ | _, _⟩ <;> rfl

theorem run_andThen_ok {p : Prog C R (Except ε α)} {f : α → Prog C R (Except ε β)} {s s' : σ}
    {a : α} (h : run exec p s = (.ok a, s')) : run exec (andThen p f) s = run exec (f a) s' := by
  rw [run_andThen, h]

theorem run_andThen_error {p : Prog C R (Except ε α)} {f : α → Prog C R (Except ε β)} {s s' : σ}
    {e : ε} (h : run exec p s = (.error e, s')) :
    run exec (andThen p f) s = (.error e, s') := by
  rw [run_andThen, h]

theorem trace_andThen (p : Prog C R (Except ε α)) (f : α → Prog C R (Except ε β)) (s : σ) :
    trace exec (andThen p f) s = trace exec p s ++
      match run exec p s with
      | (.ok a, s') => trace exec (f a) s'
      | (.error _, _) => [] := by
  simp only [andThen, trace_bind]
  rcases run exec p s with ⟨_ | _, _⟩ <;> rfl

end Fallible

end Prog

end AgentHosting
