import AgentHosting.Lib.Prog

/-!
# AgentHosting.Lib.Pool

Many programs running against one shared state, their calls interleaved in any order. A pool step
starts a program, serves one call of one program, retires a program that returned, or lets the
environment change the state.

* `Run`             — finite runs of any labelled step relation, with the steps taken.
* `Pool.invariant`  — a state property kept by the environment and by every call the programs may
  make holds in every state of every run.
* `Pool.tasks_step` — every program of the pool makes only calls its task allows, at every point.
* `Pool.run_schedule`, `Pool.run_whole` — tasks that take turns, and a task run to its end with
  nobody in between, are runs of the pool.
* `Pool.call_started` — a call of a run is one of the program its task was last started with.
* `Pool.wp_run`     — a program verified by `wp` against an environment that covers the steps of all
  the others is right inside the pool: it keeps its postcondition when it returns.
-/

namespace AgentHosting

/-! ## Runs of a labelled step relation -/

/-- `Run step s tr s'`: the steps `tr`, each with the state it was taken in, lead from `s` to
`s'`. -/
inductive Run {σ ℓ : Type} (step : σ → ℓ → σ → Prop) : σ → List (σ × ℓ) → σ → Prop where
  | nil {s : σ} : Run step s [] s
  | snoc {s s1 s2 : σ} {tr : List (σ × ℓ)} {l : ℓ} :
      Run step s tr s1 → step s1 l s2 → Run step s (tr ++ [(s1, l)]) s2

namespace Run

variable {σ ℓ : Type} {step : σ → ℓ → σ → Prop}

theorem single {s s' : σ} {l : ℓ} (h : step s l s') : Run step s [(s, l)] s' := .snoc .nil h

theorem trans {s s1 s2 : σ} {tr tr' : List (σ × ℓ)} (h₁ : Run step s tr s1)
    (h₂ : Run step s1 tr' s2) : Run step s (tr ++ tr') s2 := by
  induction h₂ with
  | nil => simpa using h₁
  | snoc _ hs ih => rw [← List.append_assoc]; exact .snoc ih hs

/-- What every step keeps holds after a run. -/
theorem invariant {I : σ → Prop} (hstep : ∀ s l s', I s → step s l s' → I s') {s s' : σ}
    {tr : List (σ × ℓ)} (h : Run step s tr s') (hi : I s) : I s' := by
  induction h with
  | nil => exact hi
  | snoc _ hs ih => exact hstep _ _ _ ih hs

theorem invariant_at {I : σ → Prop} (hstep : ∀ s l s', I s → step s l s' → I s') {s s' : σ}
    {tr : List (σ × ℓ)} (h : Run step s tr s') (hi : I s) : ∀ e ∈ tr, I e.1 := by
  induction h with
  | nil => simp
  | snoc hr _ ih =>
    intro e he
    rcases List.mem_append.mp he with he | he
    · exact ih e he
    · obtain rfl := List.mem_singleton.mp he
      exact hr.invariant hstep hi

theorem step_of_mem {s s' : σ} {tr : List (σ × ℓ)} (h : Run step s tr s') :
    ∀ e ∈ tr, ∃ s1, step e.1 e.2 s1 := by
  induction h with
  | nil => simp
  | snoc _ hs ih =>
    intro e he
    rcases List.mem_append.mp he with he | he
    · exact ih e he
    · obtain rfl := List.mem_singleton.mp he
      exact ⟨_, hs⟩

/-- A run is cut where its trace is. -/
theorem split {s s' : σ} {tr tr' : List (σ × ℓ)} (h : Run step s (tr ++ tr') s') :
    ∃ s1, Run step s tr s1 ∧ Run step s1 tr' s' := by
  generalize htr : tr ++ tr' = full at h
  induction h generalizing tr' with
  | nil =>
    obtain ⟨rfl, rfl⟩ := List.append_eq_nil_iff.mp htr
    exact ⟨s, .nil, .nil⟩
  | @snoc s1 s2 full l hr hs ih =>
    rcases List.eq_nil_or_concat tr' with rfl | ⟨front, last, rfl⟩
    · rw [List.append_nil] at htr
      subst htr
      exact ⟨_, .snoc hr hs, .nil⟩
    · rw [List.concat_eq_append, ← List.append_assoc] at htr
      obtain ⟨hfront, hlast⟩ := List.append_inj' htr rfl
      obtain rfl := List.singleton_inj.mp hlast
      obtain ⟨m, h1, h2⟩ := ih hfront
      exact ⟨m, h1, by rw [List.concat_eq_append]; exact .snoc h2 hs⟩

theorem eq_of_nil {s s' : σ} (h : Run step s [] s') : s' = s := by
  generalize htr : ([] : List (σ × ℓ)) = tr at h
  cases h with
  | nil => rfl
  | snoc _ _ => simp at htr

/-- The first step of a run, and the rest. -/
theorem uncons {s s' : σ} {e : σ × ℓ} {tr : List (σ × ℓ)} (h : Run step s (e :: tr) s') :
    e.1 = s ∧ ∃ s1, step s e.2 s1 ∧ Run step s1 tr s' := by
  have happ : Run step s ([e] ++ tr) s' := h
  obtain ⟨s1, hone, hrest⟩ := happ.split
  generalize htr : [e] = one at hone
  cases hone with
  | nil => cases htr
  | snoc hr hs =>
    obtain ⟨rfl, hlast⟩ := List.append_inj' (List.nil_append [e] |>.trans htr) rfl
    obtain rfl := hr.eq_of_nil
    obtain rfl := List.singleton_inj.mp hlast
    exact ⟨rfl, s1, hs, hrest⟩

theorem invariant_of {I : σ → Prop} {G : σ → ℓ → Prop}
    (hstep : ∀ s l s', I s → G s l → step s l s' → I s') {s s' : σ} {tr : List (σ × ℓ)}
    (h : Run step s tr s') (hg : ∀ e ∈ tr, G e.1 e.2) (hi : I s) : I s' := by
  induction h with
  | nil => exact hi
  | @snoc s1 s2 tr l _ hs ih =>
    have hprefix : I s1 := ih fun e he => hg e (List.mem_append_left _ he)
    exact hstep _ _ _ hprefix (hg (s1, l) (by simp)) hs

end Run

/-! ## Pools -/

structure Pool (ι : Type) (C : Type) (R : C → Type) (α σ : Type) where
  state : σ
  progs : ι → Option (Prog C R α)

namespace Pool

variable {ι C α σ : Type} {R : C → Type}

inductive Label (ι : Type) (C : Type) (R : C → Type) (α : Type) where
  | spawn (i : ι) (p : Prog C R α)
  | call (i : ι) (c : C) (r : R c)
  | exit (i : ι) (a : α)
  | env

variable [DecidableEq ι]

def setProg (w : Pool ι C R α σ) (i : ι) (p : Option (Prog C R α)) : Pool ι C R α σ :=
  { w with progs := Function.update w.progs i p }

@[simp] theorem setProg_state (w : Pool ι C R α σ) (i : ι) (p : Option (Prog C R α)) :
    (w.setProg i p).state = w.state := rfl

@[simp] theorem setProg_same (w : Pool ι C R α σ) (i : ι) (p : Option (Prog C R α)) :
    (w.setProg i p).progs i = p := by
  simp [setProg]

theorem setProg_other (w : Pool ι C R α σ) {i j : ι} (h : j ≠ i) (p : Option (Prog C R α)) :
    (w.setProg i p).progs j = w.progs j := by
  simp [setProg, h]

/-- One step of the pool: `spawns i p` tells which programs task `i` may be started with. -/
inductive Step (spawns : ι → Prog C R α → Prop) (serves : σ → (c : C) → R c → σ → Prop)
    (env : σ → σ → Prop) : Pool ι C R α σ → Label ι C R α → Pool ι C R α σ → Prop where
  | spawn {w : Pool ι C R α σ} {i : ι} {p : Prog C R α} : w.progs i = none → spawns i p →
      Step spawns serves env w (.spawn i p) (w.setProg i (some p))
  | call {w : Pool ι C R α σ} {i : ι} {c : C} {k : R c → Prog C R α} {r : R c} {s' : σ} :
      w.progs i = some (.call c k) → serves w.state c r s' →
      Step spawns serves env w (.call i c r) ({ w with state := s' }.setProg i (some (k r)))
  | exit {w : Pool ι C R α σ} {i : ι} {a : α} : w.progs i = some (.ret a) →
      Step spawns serves env w (.exit i a) (w.setProg i none)
  | env {w : Pool ι C R α σ} {s' : σ} : env w.state s' →
      Step spawns serves env w .env { w with state := s' }

variable {spawns : ι → Prog C R α → Prop} {serves : σ → (c : C) → R c → σ → Prop}
  {env : σ → σ → Prop}

/-- Every program of the pool has the property of its task. -/
def ProgsIn (P : ι → Prog C R α → Prop) (w : Pool ι C R α σ) : Prop :=
  ∀ i p, w.progs i = some p → P i p

theorem ProgsIn.setProg {P : ι → Prog C R α → Prop} {w : Pool ι C R α σ} (h : w.ProgsIn P) {i : ι}
    {p : Option (Prog C R α)} (hp : ∀ q, p = some q → P i q) : (w.setProg i p).ProgsIn P := by
  intro j q hq
  by_cases hj : j = i
  · subst hj; exact hp q (by simpa using hq)
  · exact h j q (by simpa [setProg_other _ hj] using hq)

/-- A property that passes from a program to what it does after a call. -/
theorem progs_step {P : ι → Prog C R α → Prop} (hspawn : ∀ i p, spawns i p → P i p)
    (hnext : ∀ i c k, P i (.call c k) → ∀ r, P i (k r)) {w w' : Pool ι C R α σ}
    {l : Label ι C R α} (h : w.ProgsIn P) (hs : Step spawns serves env w l w') :
    w'.ProgsIn P := by
  cases hs with
  | spawn _ hp => exact h.setProg fun q hq => by cases hq; exact hspawn _ _ hp
  | @call i c k r s' hi _ =>
    have hw : ({ w with state := s' } : Pool ι C R α σ).ProgsIn P := h
    exact hw.setProg fun q hq => by cases hq; exact hnext _ _ _ (h _ _ hi) r
  | exit _ => exact h.setProg fun q hq => by cases hq
  | env _ => exact h

/-- Every program of the pool makes only calls that its task allows. -/
def TasksIn (A : ι → C → Prop) (w : Pool ι C R α σ) : Prop :=
  ∀ i p, w.progs i = some p → p.AllCalls (A i)

theorem tasks_step {A : ι → C → Prop} (hspawn : ∀ i p, spawns i p → p.AllCalls (A i))
    {w w' : Pool ι C R α σ} {l : Label ι C R α} (h : w.TasksIn A)
    (hs : Step spawns serves env w l w') : w'.TasksIn A :=
  progs_step (P := fun i p => p.AllCalls (A i)) hspawn (fun _ _ _ hp r => hp.2 r) h hs

/-! ## What a task was started with -/

/-- The program that the step starts task `i` with. -/
def Label.starts (i : ι) : Label ι C R α → Option (Prog C R α)
  | .spawn j p => if j = i then some p else none
  | _ => none

/-- The program that task `i` was last started with. -/
def started (i : ι) (tr : List (Pool ι C R α σ × Label ι C R α)) : Option (Prog C R α) :=
  (tr.filterMap fun e => e.2.starts i).getLast?

theorem started_snoc (i : ι) (tr : List (Pool ι C R α σ × Label ι C R α)) (w : Pool ι C R α σ)
    (l : Label ι C R α) : started i (tr ++ [(w, l)]) = (l.starts i).or (started i tr) := by
  simp only [started, List.filterMap_append, List.filterMap_cons, List.filterMap_nil]
  cases l.starts i <;> simp

/-- Task `i` is on its way through a program it was started with: `p` calls no more than that. -/
def UnderWay (spawns : ι → Prog C R α → Prop) (tr : List (Pool ι C R α σ × Label ι C R α)) (i : ι)
    (p : Prog C R α) : Prop :=
  ∃ p₀, started i tr = some p₀ ∧ spawns i p₀ ∧ ∀ A : C → Prop, p₀.AllCalls A → p.AllCalls A

theorem underWay_run {w₀ w : Pool ι C R α σ} {tr : List (Pool ι C R α σ × Label ι C R α)}
    (hidle : ∀ i, w₀.progs i = none) (h : Run (Step spawns serves env) w₀ tr w) :
    w.ProgsIn (UnderWay spawns tr) := by
  induction h with
  | nil =>
    intro i p hp
    cases (hidle i).symm.trans hp
  | @snoc w1 w2 tr l _ hs ih =>
    intro i p hp
    rw [UnderWay, started_snoc]
    cases hs with
    | @spawn j q _ hspawn =>
      by_cases hj : i = j
      · subst hj
        rw [setProg_same] at hp
        cases hp
        exact ⟨p, by simp [Label.starts], hspawn, fun _ hp => hp⟩
      · rw [setProg_other _ hj] at hp
        simpa [UnderWay, Label.starts, Ne.symm hj] using ih i p hp
    | @call j c k r s' hj _ =>
      by_cases hi : i = j
      · subst hi
        rw [setProg_same] at hp
        cases hp
        obtain ⟨p₀, hstarted, hspawn, hcalls⟩ := ih i _ hj
        exact ⟨p₀, hstarted, hspawn, fun A hA => (hcalls A hA).2 r⟩
      · rw [setProg_other _ hi] at hp
        exact ih i p hp
    | @exit j a _ =>
      by_cases hi : i = j
      · subst hi
        rw [setProg_same] at hp
        cases hp
      · rw [setProg_other _ hi] at hp
        exact ih i p hp
    | env _ => exact ih i p hp

/-- A call in a run that begins with no program is one of the program its task was last started
with. -/
theorem call_started {w₀ w v : Pool ι C R α σ}
    {front back : List (Pool ι C R α σ × Label ι C R α)} {i : ι} {c : C} {r : R c}
    (hidle : ∀ i, w₀.progs i = none)
    (h : Run (Step spawns serves env) w₀ (front ++ (v, .call i c r) :: back) w) :
    ∃ p₀, started i front = some p₀ ∧ spawns i p₀ ∧ ∀ A : C → Prop, p₀.AllCalls A → A c := by
  obtain ⟨v', hfront, hback⟩ := h.split
  obtain ⟨rfl, w', hs, -⟩ := hback.uncons
  cases hs with
  | call hp _ =>
    obtain ⟨p₀, hstarted, hspawn, hcalls⟩ := underWay_run hidle hfront i _ hp
    exact ⟨p₀, hstarted, hspawn, fun A hA => (hcalls A hA).1⟩

/-! ## Invariants -/

/-- A state property that the environment and every allowed call keep, along a run whose steps all
satisfy `G`. -/
theorem invariant {A : ι → C → Prop} {I : σ → Prop} {G : Pool ι C R α σ → Label ι C R α → Prop}
    (hspawn : ∀ i p, spawns i p → p.AllCalls (A i)) (henv : ∀ s s', I s → env s s' → I s')
    (hcall : ∀ w i c r s', I w.state → A i c → G w (.call i c r) → serves w.state c r s' → I s')
    {w w' : Pool ι C R α σ} {tr : List (Pool ι C R α σ × Label ι C R α)}
    (h : Run (Step spawns serves env) w tr w') (hg : ∀ e ∈ tr, G e.1 e.2) (ht : w.TasksIn A)
    (hi : I w.state) : w'.TasksIn A ∧ I w'.state := by
  refine h.invariant_of (I := fun w => w.TasksIn A ∧ I w.state) ?_ hg ⟨ht, hi⟩
  rintro w l w' ⟨ht, hi⟩ hgl hs
  refine ⟨tasks_step hspawn ht hs, ?_⟩
  cases hs with
  | spawn _ _ => exact hi
  | call hp hserve => exact hcall w _ _ _ _ hi (ht _ _ hp).1 hgl hserve
  | exit _ => exact hi
  | env he => exact henv _ _ hi he

theorem setProg_setProg (w : Pool ι C R α σ) (i : ι) (p q : Option (Prog C R α)) :
    (w.setProg i p).setProg i q = w.setProg i q := by
  simp [setProg]

/-- The pool after task `i` made its next call. -/
def advance (w : Pool ι C R α σ) (exec : σ → (c : C) → R c × σ) (i : ι) : Pool ι C R α σ :=
  match w.progs i with
  | some (.call c k) =>
    { w with state := (exec w.state c).2 }.setProg i (some (k (exec w.state c).1))
  | _ => w

theorem step_advance {exec : σ → (c : C) → R c × σ} {w : Pool ι C R α σ} {i : ι} {c : C}
    {k : R c → Prog C R α} (h : w.progs i = some (.call c k)) :
    Step spawns (Prog.Answers exec) env w (.call i c (exec w.state c).1) (w.advance exec i) := by
  rw [advance, h]
  exact .call h rfl

theorem advance_other {exec : σ → (c : C) → R c × σ} {w : Pool ι C R α σ} {i j : ι} (h : j ≠ i) :
    (w.advance exec i).progs j = w.progs j := by
  unfold advance
  split
  · exact setProg_other _ h _
  · rfl

/-- The pool after its tasks took turns. -/
def schedule (exec : σ → (c : C) → R c × σ) (w : Pool ι C R α σ) (turns : List ι) :
    Pool ι C R α σ :=
  turns.foldl (fun w i => w.advance exec i) w

theorem schedule_other {exec : σ → (c : C) → R c × σ} {turns : List ι} {j : ι} (h : j ∉ turns)
    (w : Pool ι C R α σ) : (w.schedule exec turns).progs j = w.progs j := by
  induction turns generalizing w with
  | nil => rfl
  | cons i turns ih =>
    obtain ⟨hi, hturns⟩ := List.ne_and_not_mem_of_not_mem_cons h
    exact (ih hturns _).trans (advance_other hi)

/-- The step in which task `i` makes its next call. -/
def turn (exec : σ → (c : C) → R c × σ) (w : Pool ι C R α σ) (i : ι) :
    List (Pool ι C R α σ × Label ι C R α) :=
  match w.progs i with
  | some (.call c _) => [(w, .call i c (exec w.state c).1)]
  | _ => []

/-- The steps in which the tasks take turns. -/
def turns (exec : σ → (c : C) → R c × σ) (w : Pool ι C R α σ) :
    List ι → List (Pool ι C R α σ × Label ι C R α)
  | [] => []
  | i :: is => turn exec w i ++ turns exec (w.advance exec i) is

theorem run_turn (exec : σ → (c : C) → R c × σ)
    (hexec : ∀ s c, serves s c (exec s c).1 (exec s c).2) (w : Pool ι C R α σ) (i : ι) :
    Run (Step spawns serves env) w (turn exec w i) (w.advance exec i) := by
  unfold turn advance
  split
  · rename_i c k hp
    exact .single (.call hp (hexec _ _))
  · exact .nil

theorem run_schedule (exec : σ → (c : C) → R c × σ)
    (hexec : ∀ s c, serves s c (exec s c).1 (exec s c).2) (is : List ι) (w : Pool ι C R α σ) :
    Run (Step spawns serves env) w (turns exec w is) (w.schedule exec is) := by
  induction is generalizing w with
  | nil => exact .nil
  | cons i is ih => exact (run_turn exec hexec w i).trans (ih (w.advance exec i))

/-- A pool can let one task make its next `n` calls, served by a function where `serves` allows
its answers. -/
theorem run_after (spawns : ι → Prog C R α → Prop) (env : σ → σ → Prop)
    (exec : σ → (c : C) → R c × σ) {i : ι} (n : Nat) (p : Prog C R α) (w : Pool ι C R α σ)
    (hexec : ∀ m < n, ∀ c, (p.after exec m w.state).1.next = some c →
      serves (p.after exec m w.state).2 c (exec (p.after exec m w.state).2 c).1
        (exec (p.after exec m w.state).2 c).2) :
    ∃ tr, Run (Step spawns serves env) (w.setProg i (some p)) tr
        ({ w with state := (p.after exec n w.state).2 }.setProg i
          (some (p.after exec n w.state).1)) ∧
      ∀ e ∈ tr, ∃ m < n, e.1.state = (p.after exec m w.state).2 ∧
        ∃ c r, (p.after exec m w.state).1.next = some c ∧ e.2 = .call i c r := by
  induction n generalizing p w with
  | zero => exact ⟨[], .nil, by simp⟩
  | succ n ih =>
    cases p with
    | ret a => exact ⟨[], .nil, by simp⟩
    | call c k =>
      have hstep : Step spawns serves env (w.setProg i (some (.call c k))) _ _ :=
        .call (setProg_same w i (some (.call c k))) (hexec 0 (by omega) c rfl)
      obtain ⟨tr, hrun, hcalls⟩ := ih (k (exec w.state c).1)
        { w with state := (exec w.state c).2 } fun m hm c hc => hexec (m + 1) (by omega) c hc
      rw [← setProg_setProg _ i (some (.call c k))] at hrun
      refine ⟨_, (Run.single hstep).trans hrun, fun e he => ?_⟩
      rcases List.mem_append.mp he with he | he
      · obtain rfl := List.mem_singleton.mp he
        exact ⟨0, by omega, rfl, _, _, rfl, rfl⟩
      · obtain ⟨m, hm, hstate, hcall⟩ := hcalls e he
        exact ⟨m + 1, by omega, hstate, hcall⟩

/-- The pool after task `i` was started with `p` and made `n` calls. -/
def advanced (w : Pool ι C R α σ) (exec : σ → (c : C) → R c × σ) (i : ι) (p : Prog C R α)
    (n : Nat) : Pool ι C R α σ :=
  { w with state := (p.after exec n w.state).2 }.setProg i (some (p.after exec n w.state).1)

theorem run_advanced (env : σ → σ → Prop) (exec : σ → (c : C) → R c × σ) {i : ι}
    {p : Prog C R α} {w : Pool ι C R α σ} (hidle : w.progs i = none) (hp : spawns i p) (n : Nat)
    (hexec : ∀ m < n, ∀ c, (p.after exec m w.state).1.next = some c →
      serves (p.after exec m w.state).2 c (exec (p.after exec m w.state).2 c).1
        (exec (p.after exec m w.state).2 c).2) :
    ∃ tr, Run (Step spawns serves env) w tr (w.advanced exec i p n) ∧
      ∀ e ∈ tr, e.2 = .spawn i p ∨ ∃ m < n, e.1.state = (p.after exec m w.state).2 ∧
        ∃ c r, (p.after exec m w.state).1.next = some c ∧ e.2 = .call i c r := by
  obtain ⟨tr, hrun, hcalls⟩ := run_after spawns env exec n p w hexec
  refine ⟨_, (Run.single (.spawn hidle hp)).trans hrun, fun e he => ?_⟩
  rcases List.mem_append.mp he with he | he
  · obtain rfl := List.mem_singleton.mp he
    exact .inl rfl
  · exact .inr (hcalls e he)

/-- A task can be started, run to its end with nobody in between, and be retired. -/
theorem run_whole (env : σ → σ → Prop) (exec : σ → (c : C) → R c × σ)
    (hexec : ∀ s c, serves s c (exec s c).1 (exec s c).2) {i : ι} {p : Prog C R α}
    {w : Pool ι C R α σ} (hidle : w.progs i = none) (hp : spawns i p) :
    ∃ tr, Run (Step spawns serves env) w tr { w with state := (p.run exec w.state).2 } := by
  have hends : ∀ (p : Prog C R α) (s : σ), ∃ tr, Run (Step spawns serves env)
      ({ w with state := s }.setProg i (some p)) tr { w with state := (p.run exec s).2 } := by
    intro p
    induction p with
    | ret a =>
      intro s
      have hexit : Step spawns serves env ({ w with state := s }.setProg i (some (.ret a))) _ _ :=
        .exit (setProg_same { w with state := s } i (some (.ret a)))
      have hretired : ({ w with state := s } : Pool ι C R α σ).setProg i none =
          { w with state := s } := by
        rw [setProg, ← hidle, Function.update_eq_self]
      rw [setProg_setProg, hretired] at hexit
      exact ⟨_, .single hexit⟩
    | call c k ih =>
      intro s
      have hcall :
          Step spawns serves env ({ w with state := s }.setProg i (some (.call c k))) _ _ :=
        .call (setProg_same { w with state := s } i (some (.call c k))) (hexec s c)
      obtain ⟨tr, hrun⟩ := ih (exec s c).1 (exec s c).2
      rw [← setProg_setProg _ i (some (.call c k))] at hrun
      exact ⟨_, (Run.single hcall).trans hrun⟩
  obtain ⟨tr, hrun⟩ := hends p w.state
  exact ⟨_, (Run.single (.spawn hidle hp)).trans hrun⟩

/-- A verified program inside a pool. The steps of the run other than those of task `i` are all
steps of `others`, the environment it was verified against; then it is still verified. -/
theorem wp_run {others : σ → σ → Prop} {Q : α → σ → Prop} {i : ι} {w w' : Pool ι C R α σ}
    {tr : List (Pool ι C R α σ × Label ι C R α)} (h : Run (Step spawns serves env) w tr w')
    (hown : ∀ e ∈ tr, (∀ p, e.2 ≠ .spawn i p) ∧ ∀ a, e.2 ≠ .exit i a)
    (hothers : ∀ v ∈ tr, ∀ v' : Pool ι C R α σ, (∀ c r, v.2 ≠ .call i c r) →
      Step spawns serves env v.1 v.2 v' → Relation.ReflTransGen others v.1.state v'.state)
    {p : Prog C R α} (hp : w.progs i = some p)
    (hq : p.wp serves others (fun _ => Q) w.state) :
    ∃ p', w'.progs i = some p' ∧ p'.wp serves others (fun _ => Q) w'.state := by
  induction h with
  | nil => exact ⟨p, hp, hq⟩
  | @snoc w1 w2 tr l hr hs ih =>
    obtain ⟨p1, hp1, hq1⟩ := ih (fun e he => hown e (List.mem_append_left _ he))
      (fun v hv => hothers v (List.mem_append_left _ hv))
    have hlast : (w1, l) ∈ tr ++ [(w1, l)] := by simp
    obtain ⟨hnospawn, hnoexit⟩ := hown _ hlast
    have hrely := hothers _ hlast w2
    cases hs with
    | @spawn j q hj hspawn =>
      have hne : i ≠ j := fun e => by subst e; exact hnospawn q rfl
      exact ⟨p1, by rw [setProg_other _ hne]; exact hp1, hq1⟩
    | @call j c k r s' hj hserve =>
      by_cases hne : i = j
      · subst hne
        rw [hp1] at hj
        cases hj
        exact ⟨k r, setProg_same .., hq1 _ .refl _ _ hserve⟩
      · refine ⟨p1, by rw [setProg_other _ hne]; exact hp1, ?_⟩
        refine Prog.wp_env hq1 (hrely ?_ (.call hj hserve))
        intro c' r' e
        cases e
        exact hne rfl
    | @exit j a hj =>
      have hne : i ≠ j := fun e => by subst e; exact hnoexit a rfl
      exact ⟨p1, by rw [setProg_other _ hne]; exact hp1, hq1⟩
    | env he =>
      exact ⟨p1, hp1, Prog.wp_env hq1 (hrely (fun c r e => by cases e) (.env he))⟩

end Pool

end AgentHosting
