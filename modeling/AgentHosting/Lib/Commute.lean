import Mathlib.Data.List.Basic
import AgentHosting.Lib.Pool

/-!
# AgentHosting.Lib.Commute

Programs whose calls do not depend on one another, under a server that is a function.

* `Commute`            — two calls that may be made in either order: each is answered as before, and
  the state is the same.
* `run_commute`        — a call commutes with a whole run of calls it commutes with.
* `finish`             — a pool brought to an end task by task.
* `finish_of_run`      — in a pool whose tasks commute, no step changes how it ends: every
  interleaving ends as the tasks one after another, in any order.
-/

namespace AgentHosting

namespace Prog

variable {C : Type} {R : C → Type} {σ α : Type}

structure Commute (exec : σ → (c : C) → R c × σ) (c d : C) : Prop where
  left : ∀ s, (exec (exec s d).2 c).1 = (exec s c).1
  right : ∀ s, (exec (exec s c).2 d).1 = (exec s d).1
  state : ∀ s, (exec (exec s c).2 d).2 = (exec (exec s d).2 c).2

variable {exec : σ → (c : C) → R c × σ}

/-- A call before a run it commutes with might as well come after it. -/
theorem run_commute {c : C} {p : Prog C R α} (h : p.AllCalls (Commute exec c)) (s : σ) :
    (exec (run exec p s).2 c).1 = (exec s c).1 ∧
      run exec p (exec s c).2 = ((run exec p s).1, (exec (run exec p s).2 c).2) := by
  induction p generalizing s with
  | ret a => exact ⟨rfl, rfl⟩
  | call d k ih =>
    obtain ⟨hanswer, hrun⟩ := ih (exec s d).1 (h.2 _) (exec s d).2
    refine ⟨hanswer.trans (h.1.left s), ?_⟩
    rw [run_call, h.1.right, h.1.state, hrun]
    rfl

end Prog

namespace Pool

open Prog

variable {ι C α σ : Type} {R : C → Type}

/-- The rest of task `i`, run to its end from `s`. -/
def finishTask (exec : σ → (c : C) → R c × σ) (progs : ι → Option (Prog C R α)) (s : σ) (i : ι) :
    σ :=
  match progs i with
  | some p => (run exec p s).2
  | none => s

/-- The state when the tasks of `order` are run to their ends, one after another. -/
def finish (exec : σ → (c : C) → R c × σ) (w : Pool ι C R α σ) (order : List ι) : σ :=
  order.foldl (finishTask exec w.progs) w.state

variable {exec : σ → (c : C) → R c × σ} {A : ι → C → Prop}

theorem finishTask_ended {progs : ι → Option (Prog C R α)} {i : ι}
    (h : ∀ p, progs i = some p → ∃ a, p = .ret a) (s : σ) : finishTask exec progs s i = s := by
  unfold finishTask
  cases hp : progs i with
  | none => rfl
  | some p =>
    obtain ⟨a, rfl⟩ := h p hp
    rfl

/-- Where all tasks have ended there is nothing left to do. -/
theorem finish_ended {w : Pool ι C R α σ} (h : ∀ i p, w.progs i = some p → ∃ a, p = .ret a)
    (order : List ι) : w.finish exec order = w.state :=
  List.foldl_fixed' (fun i => finishTask_ended (h i) w.state) order

/-- A call of one task before the rest of others might as well come after it. -/
theorem finish_commute {w : Pool ι C R α σ} (htasks : w.TasksIn A) {c : C} {order : List ι}
    (hcommute : ∀ j ∈ order, ∀ d, A j d → Commute exec c d) (s : σ) :
    (exec (order.foldl (finishTask exec w.progs) s) c).1 = (exec s c).1 ∧
      order.foldl (finishTask exec w.progs) (exec s c).2 =
        (exec (order.foldl (finishTask exec w.progs) s) c).2 := by
  induction order generalizing s with
  | nil => exact ⟨rfl, rfl⟩
  | cons j order ih =>
    have hj : (exec (finishTask exec w.progs s j) c).1 = (exec s c).1 ∧
        finishTask exec w.progs (exec s c).2 j = (exec (finishTask exec w.progs s j) c).2 := by
      unfold finishTask
      cases hp : w.progs j with
      | none => exact ⟨rfl, rfl⟩
      | some p =>
        obtain ⟨hanswer, hrun⟩ :=
          run_commute ((htasks j p hp).mono (hcommute j List.mem_cons_self)) s
        exact ⟨hanswer, congrArg Prod.snd hrun⟩
    obtain ⟨hanswer, hstate⟩ := ih (fun j hj => hcommute j (List.mem_cons_of_mem _ hj))
      (finishTask exec w.progs s j)
    rw [List.foldl_cons, List.foldl_cons, hj.2]
    exact ⟨hanswer.trans hj.1, hstate⟩

variable [DecidableEq ι]

/-- One call of one task does not change how the pool ends. -/
theorem finish_call {w : Pool ι C R α σ} (htasks : w.TasksIn A) {order : List ι}
    (hnodup : order.Nodup) {i : ι} (hi : i ∈ order) {c : C} {k : R c → Prog C R α}
    (hp : w.progs i = some (.call c k))
    (hcommute : ∀ j ∈ order, j ≠ i → ∀ d, A j d → Commute exec c d) :
    ({ w with state := (exec w.state c).2 }.setProg i (some (k (exec w.state c).1))).finish exec
      order = w.finish exec order := by
  obtain ⟨before, after, rfl⟩ := List.append_of_mem hi
  have hbefore : ∀ j ∈ before, j ≠ i := fun j hj => by
    rintro rfl
    exact (List.nodup_append.mp hnodup).2.2 j hj j List.mem_cons_self rfl
  have hafter : ∀ j ∈ after, j ≠ i := fun j hj => by
    rintro rfl
    exact (List.nodup_cons.mp (List.nodup_append.mp hnodup).2.1).1 hj
  obtain ⟨hanswer, hstate⟩ := finish_commute htasks
    (fun j hj => hcommute j (List.mem_append_left _ hj) (hbefore j hj)) w.state
  have hother : ∀ {order : List ι}, (∀ j ∈ order, j ≠ i) → ∀ (s : σ), ∀ j ∈ order,
      finishTask exec ({ w with state := (exec w.state c).2 }.setProg i
        (some (k (exec w.state c).1))).progs s j = finishTask exec w.progs s j := by
    intro order h s j hj
    simp only [finishTask, setProg_other _ (h j hj)]
  simp only [finish, List.foldl_append, List.foldl_cons, setProg_state]
  rw [List.foldl_ext _ _ _ (hother hbefore), hstate, List.foldl_ext _ _ _ (hother hafter)]
  congr 1
  simp only [finishTask, setProg_same, hp, run_call, hanswer]

/-- Retiring a task that has returned does not change how the pool ends. -/
theorem finish_exit {w : Pool ι C R α σ} {i : ι} {a : α} (hp : w.progs i = some (.ret a))
    (order : List ι) : (w.setProg i none).finish exec order = w.finish exec order := by
  refine List.foldl_ext _ _ _ fun s j _ => ?_
  by_cases hj : j = i
  · subst hj
    simp only [finishTask, setProg_same, hp, run_ret]
  · simp only [finishTask, setProg_other _ hj]

variable {spawns : ι → Prog C R α → Prop}

/-- In a pool whose tasks commute, every interleaving that brings them all to their ends leaves the
state that running them one after another does, in any order. -/
theorem finish_of_run (hspawn : ∀ i p, ¬ spawns i p) {order : List ι} (hnodup : order.Nodup)
    (hcommute : ∀ i j, i ∈ order → j ∈ order → i ≠ j → ∀ c d, A i c → A j d → Commute exec c d)
    {w w' : Pool ι C R α σ} {tr : List (Pool ι C R α σ × Label ι C R α)}
    (hrun : Run (Step spawns (Answers exec) Alone) w tr w') (htasks : w.TasksIn A)
    (horder : w.ProgsIn fun i _ => i ∈ order)
    (hended : ∀ i p, w'.progs i = some p → ∃ a, p = .ret a) :
    w'.state = w.finish exec order := by
  have hkept : w'.TasksIn A ∧ (w'.ProgsIn fun i _ => i ∈ order) ∧
      w'.finish exec order = w.finish exec order := by
    refine hrun.invariant (I := fun v => v.TasksIn A ∧ (v.ProgsIn fun i _ => i ∈ order) ∧
      v.finish exec order = w.finish exec order) ?_ ⟨htasks, horder, rfl⟩
    rintro v l v' ⟨htasks, horder, hfinish⟩ hs
    refine ⟨tasks_step (fun i p h => (hspawn i p h).elim) htasks hs, ?_, ?_⟩
    · exact progs_step (fun i p h => (hspawn i p h).elim) (fun _ _ _ hi _ => hi) horder hs
    · rw [← hfinish]
      cases hs with
      | spawn _ hp => exact (hspawn _ _ hp).elim
      | @call i c k r s' hp hserve =>
        have hi := horder _ _ hp
        obtain ⟨rfl, rfl⟩ := Prod.mk.inj (show ((exec v.state c).1, (exec v.state c).2) = _ from
          hserve)
        exact finish_call htasks hnodup hi hp fun j hj hne d hd =>
          hcommute i j hi hj (Ne.symm hne) c d (htasks _ _ hp).1 hd
      | exit hp => exact finish_exit hp order
      | env he => exact he.elim
  rw [← hkept.2.2, finish_ended hended]

end Pool

end AgentHosting
