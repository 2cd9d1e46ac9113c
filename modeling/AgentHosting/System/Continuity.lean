import AgentHosting.Kube.Validation
import AgentHosting.Lib.Rely
import AgentHosting.Operator.Settle
import AgentHosting.System.Lineage

/-!
# AgentHosting.System.Continuity

A pod that matches its Agent is left alone. The operator deletes the pod of an Agent in two places,
and the API server in one; whatever else the two programs do, and whatever fails, takes nothing from
a running pod.

* `Holds`          — the pod is stored, as it was created but for what the nodes report.
* `PodCall`        — what every program guarantees: that pod is not deleted.
* `Keeping`        — the tasks: every properly named request but a restart of this Agent, and runs
  for copies of Agents that, where they are of this name, are to run and match the pod.
* `pod_outlives`   — in every run of such tasks the pod stays.
-/

namespace AgentHosting
namespace System

open Kube Prog Operator

/-! ## The pod -/

/-- The pod is stored, as `p₀` was created, and is not going away. -/
def Holds (name : String) (p₀ : Pod) (s : Cluster) : Prop :=
  ∃ p, s.objs .pod (podName name) = some p ∧ asCreated p = asCreated p₀ ∧
    p.metadata.deletionTimestamp = none

/-- The Agent is to run, and the pod passes the drift check. -/
def Matches (agent : Agent) (p₀ : Pod) : Prop :=
  agent.spec.state ≠ .stopped ∧ podNeedsUpdate p₀ agent = false

/-- The drift check looks at nothing that the nodes report. -/
theorem podNeedsUpdate_asCreated (p : Pod) (agent : Agent) :
    podNeedsUpdate (asCreated p) agent = podNeedsUpdate p agent := by
  cases hspec : p.spec <;> simp [podNeedsUpdate, asCreated, hspec]

/-- The drift check looks at nothing of the Agent but its image, cpu and memory. -/
theorem podNeedsUpdate_congr {agent agent' : Agent} (himage : agent.spec.image = agent'.spec.image)
    (hcpu : agent.spec.cpu = agent'.spec.cpu) (hmemory : agent.spec.memory = agent'.spec.memory)
    (p : Pod) : podNeedsUpdate p agent = podNeedsUpdate p agent' := by
  simp only [podNeedsUpdate, himage, hcpu, hmemory]

variable {S : Server} {ctx : Context} {name : String} {p₀ : Pod}

/-- A write to another pod, or to another kind of object. -/
theorem Holds.set {s : Cluster} (h : Holds name p₀ s) {k : Kind} {n : String} {x : Option (Obj k)}
    (hother : k = .pod → n ≠ podName name) : Holds name p₀ (s.set k n x) := by
  obtain ⟨p, hp, hsame⟩ := h
  refine ⟨p, ?_, hsame⟩
  by_cases hk : Kind.pod = k
  · subst hk
    rw [Cluster.set_other_name s .pod (Ne.symm (hother rfl)), hp]
  · rw [Cluster.set_other_kind s hk, hp]

theorem Holds.of_objs {s s' : Cluster} (h : Holds name p₀ s) (hobjs : s'.objs = s.objs) :
    Holds name p₀ s' := by
  rw [Holds, hobjs]
  exact h

/-- What happens besides: the nodes at work, and whatever other clients do to Agents. -/
inductive Calm : Cluster → Cluster → Prop where
  | node {s s' : Cluster} : Kubelet s s' → Calm s s'
  | agents {s s' : Cluster} : s'.objs = s.objs → Calm s s'

theorem Holds.calm {s s' : Cluster} (h : Holds name p₀ s) (hs : Calm s s') :
    Holds name p₀ s' := by
  cases hs with
  | agents hobjs => exact h.of_objs hobjs
  | node hs =>
    obtain ⟨p, hp, hsame, hmark⟩ := h
    cases hs with
    | @finish n q hq hgoing =>
      refine Holds.set ⟨p, hp, hsame, hmark⟩ fun _ hn => ?_
      rw [hn, hp] at hq
      obtain rfl := Option.some.inj hq
      rw [hmark] at hgoing
      cases hgoing
    | @report n q nodeName status hq =>
      by_cases hn : n = podName name
      · subst hn
        obtain rfl := Option.some.inj (hp.symm.trans hq)
        refine ⟨_, Cluster.set_same .., ?_, hmark⟩
        rw [← hsame]
        cases hspec : p.spec <;> simp [asCreated, hspec]
      · exact Holds.set ⟨p, hp, hsame, hmark⟩ fun _ => hn

/-! ## Rely and guarantee -/

def KeepsPod (name : String) (p₀ : Pod) (s s' : Cluster) : Prop :=
  Holds name p₀ s → Holds name p₀ s'

/-- The call does not delete the pod. -/
def Spares (name : String) (c : Call) : Prop := c ≠ .delete .pod (podName name)

def PodCall (name : String) (_ : Cluster) (c : Call) : Prop := Spares name c

theorem podCall_keeps {s s' : Cluster} {c : Call} {r : Answer c} (hc : PodCall name s c)
    (hs : S.Faulty s c r s') : KeepsPod name p₀ s s' := by
  intro h
  cases c with
  | getOpt k n => rwa [hs.getOpt.1]
  | create k o =>
    rcases hs.create with ⟨rfl, -⟩ | ⟨hfree, rfl⟩
    · exact h
    · refine h.set fun hk hn => ?_
      subst hk
      obtain ⟨p, hp, -⟩ := h
      rw [hn, hp] at hfree
      cases hfree
  | delete k n =>
    rcases hs.delete with ⟨rfl, -⟩ | ⟨o, -, rfl⟩
    · exact h
    · refine h.set fun hk hn => ?_
      subst hk
      exact hc (by rw [hn])
  | _ => exact h.of_objs (hs.objs_of_agentCall (by intro k; simp))

/-- Whatever the answers, the program does not delete the pod. -/
def Sparing {α : Type} (name : String) (p : Prog Call Answer α) : Prop :=
  p.AllCalls (Spares name)

theorem Sparing.safe {α : Type} {p : Prog Call Answer α} (h : Sparing name p) (s : Cluster) :
    Safe S.Faulty (KeepsPod name p₀) (PodCall name) p s :=
  AllCalls.safe (A := Spares name) (I := fun _ => True) (fun _ _ _ _ => trivial)
    (fun _ _ _ _ _ _ _ => trivial) (fun _ _ _ hc => hc) h trivial

theorem Holds.star {s s' : Cluster} (h : Holds name p₀ s)
    (hs : Relation.ReflTransGen (KeepsPod name p₀) s s') : Holds name p₀ s' := by
  induction hs with
  | refl => exact h
  | tail _ hs ih => exact hs ih

/-- The pod step of a run that the pod matches: it reads the pod and goes on. -/
theorem podStep_safe {agent : Agent} (hname : agent.nameAny = name) (hmatch : Matches agent p₀)
    {s : Cluster} (h : Holds name p₀ s) {α : Type}
    {f : Unit → Prog Call Answer (Except KubeError α)}
    (hf : ∀ s, Holds name p₀ s → Safe S.Faulty (KeepsPod name p₀) (PodCall name) (f ()) s) :
    Safe S.Faulty (KeepsPod name p₀) (PodCall name) (andThen (podStep agent) f) s := by
  subst hname
  have hread : ∀ {s1 s2 : Cluster} {r : Answer (.getOpt .pod (podName agent.nameAny))},
      Holds agent.nameAny p₀ s1 → S.Faulty s1 (.getOpt .pod (podName agent.nameAny)) r s2 →
      s2 = s1 ∧ ((∃ p, r = .ok (some p) ∧ podNeedsUpdate p agent = false) ∨ ∃ e, r = .error e) := by
    intro s1 s2 r h1 hs
    obtain ⟨rfl, hr⟩ := hs.getOpt
    refine ⟨rfl, hr.imp (fun hr => ?_) id⟩
    obtain ⟨p, hp, hsame, -⟩ := h1
    refine ⟨p, by rw [hr, hp], ?_⟩
    rw [← podNeedsUpdate_asCreated, hsame, podNeedsUpdate_asCreated]
    exact hmatch.2
  rw [podStep, if_neg hmatch.1, reconcilePod_run]
  intro s1 h1
  refine ⟨by simp [PodCall, Spares], fun r s2 hs => ?_⟩
  have hheld := h.star h1
  obtain ⟨rfl, ⟨p, rfl, hok⟩ | ⟨e, rfl⟩⟩ := hread hheld hs
  · simp only [hok, if_false, Bool.false_eq_true]
    exact hf s2 hheld
  · trivial

theorem ensure_sparing (k : Kind) (n : String) (desired : Obj k) :
    Sparing name (ensureExists k n desired).run :=
  ensureExists_calls (by simp [Spares]) (by simp [Spares])

theorem afterPod_sparing (agent : Agent) :
    Sparing name (andThen (reconcileNetworkPolicy agent).run fun _ =>
      andThen (reconcileService agent).run fun _ =>
      andThen (updateStatus agent).run fun _ => .ret (.ok ⟨30⟩) :
      Prog Call Answer (Except KubeError Action)) := by
  refine AllCalls.andThen (ensure_sparing .netpol _ _) fun _ => ?_
  refine AllCalls.andThen (ensure_sparing .service _ _) fun _ => ?_
  exact (updateStatus_calls (by simp [Spares]) (by simp [Spares]) (by simp [Spares])).andThen
    fun _ => trivial

theorem reconcileTask_keeps (ctx : Context) {agent : Agent}
    (hmatch : agent.nameAny = name → Matches agent p₀) {s : Cluster} (h : Holds name p₀ s) :
    Safe S.Faulty (KeepsPod name p₀) (PodCall name) (reconcileTask ctx agent) s := by
  by_cases hname : agent.nameAny = name
  · refine Safe.bind ?_ (wp_of_forall (fun _ _ _ => trivial) _ s)
    rw [reconcile_run]
    exact AllCalls.safe_andThen (A := Spares name) (I := Holds name p₀) (fun _ _ hi hs => hs hi)
      (fun _ _ _ _ hi hc hs => podCall_keeps hc hs hi)
      (fun _ _ _ hc => hc) (ensure_sparing .pvc _ _)
      (fun _ s hs => podStep_safe hname (hmatch hname) hs
        fun s _ => (afterPod_sparing agent).safe s) h
  · refine Sparing.safe ?_ s
    refine AllCalls.bind ((reconcile_calls ctx agent).mono fun c hc => ?_) fun _ => trivial
    rintro rfl
    generalize hn : podName name = n at hc
    cases hc with
    | deletePod => exact hname (podName_injective hn.symm)

theorem requestTask_sparing {r : Api.Request} (hr : r ≠ .restart name) (start : Api.Instant)
    (clock : List Api.Instant) : Sparing name (requestTask r start clock) := by
  refine requestTask_calls (by simp [Spares]) ?_ start clock
  cases r with
  | create uuid req => exact createInstance_calls (by simp [Spares]) (by simp [Spares])
  | start n => exact patchState_calls _ (by simp [Spares]) (by simp [Spares])
  | stop n => exact patchState_calls _ (by simp [Spares]) (by simp [Spares])
  | restart n =>
    refine restartInstance_calls (by simp [Spares]) fun hdelete => hr ?_
    rw [podName_injective (Call.delete.inj hdelete).2]
  | delete n =>
    exact (deleteInstance_calls (by simp [Spares]) (by simp [Spares])).bind fun _ => trivial

/-! ## Runs -/

section Runs

variable {Slot : Type}

/-- Runs for copies of Agents that match the pod where they are of its name, and every request but a
restart of it. All are about names that an Agent can have: with another, `a?x`, a restart would
delete the pod of `a`. -/
inductive Keeping (ctx : Context) (name : String) (p₀ : Pod) :
    TaskId Slot → Prog Call Answer Outcome → Prop where
  | reconcile (agent : Agent) (slot : Slot) : isDns1123Subdomain agent.nameAny = true →
      (agent.nameAny = name → Matches agent p₀) →
      Keeping ctx name p₀ (.operator agent.nameAny slot) (reconcileTask ctx agent)
  | request {r : Api.Request} (start : Api.Instant) (clock : List Api.Instant) (n : Nat) :
      isDns1123Subdomain r.name = true → r ≠ .restart name →
      Keeping ctx name p₀ (.api n) (requestTask r start clock)

variable [DecidableEq Slot]

/-- One step of such tasks; any call may fail, with or without its effect. -/
abbrev KeepingStep (S : Server) (ctx : Context) (name : String) (p₀ : Pod) :
    World Slot → Label Slot → World Slot → Prop :=
  Pool.Step (Keeping ctx name p₀) S.Faulty Calm

structure PodSafe (S : Server) (name : String) (p₀ : Pod) (w : World Slot) : Prop where
  safe : w.AllSafe S.Faulty (KeepsPod name p₀) (PodCall name)
  held : Holds name p₀ w.state

theorem podSafe_step {w w' : World Slot} {l : Label Slot} (h : PodSafe S name p₀ w)
    (hs : KeepingStep S ctx name p₀ w l w') : PodSafe S name p₀ w' := by
  refine ⟨Pool.safe_step (fun i p hp => ?_) (fun _ _ _ _ => podCall_keeps)
    (fun _ _ he hi => hi.calm he) h.safe hs, ?_⟩
  · cases hp with
    | reconcile agent slot _ hmatch => exact reconcileTask_keeps ctx hmatch h.held
    | request start clock n _ hr => exact (requestTask_sparing hr start clock).safe _
  · cases hs with
    | spawn _ _ => exact h.held
    | call hi hserve => exact podCall_keeps (h.safe.call hi) hserve h.held
    | exit _ => exact h.held
    | env he => exact h.held.calm he

/-- A pod that passes the drift check of every copy of its Agent stays, in every run without a stop
or a restart of the Agent: whatever is requested of it or of others, whatever fails, however the
rest of its spec is edited. -/
theorem pod_outlives {s : Cluster} (h : Holds name p₀ s) {w : World Slot}
    {tr : List (World Slot × Label Slot)}
    (hrun : Run (KeepingStep S ctx name p₀) (World.initial s) tr w) :
    ∀ v ∈ visited tr w, Holds name p₀ v.state := by
  have hinitial : PodSafe S name p₀ (World.initial s : World Slot) :=
    ⟨World.initial_progsIn _ s, h⟩
  have hstep : ∀ (w : World Slot) l w', PodSafe S name p₀ w → KeepingStep S ctx name p₀ w l w' →
      PodSafe S name p₀ w' := fun _ _ _ => podSafe_step
  intro v hv
  rcases List.mem_append.mp hv with hv | hv
  · obtain ⟨e, he, rfl⟩ := List.mem_map.mp hv
    exact (hrun.invariant_at hstep hinitial e he).held
  · obtain rfl := List.mem_singleton.mp hv
    exact (hrun.invariant hstep hinitial).held

end Runs

/-- The spec is edited, all but image, cpu and memory, and a run for the new spec leaves the pod. -/
theorem pod_outlives_edit :
    let old := Agent.sample "a" "uid-1" .running
    let edited := { old with spec := { old.spec with disk := "1Gi", command := ["sleep"] } }
    let s := old.alone.set .pod "agent-a" (some (buildPod old))
    ∃ tr w, Run (KeepingStep Server.verbatim {} "a" (buildPod old)) (World.initial s : World Unit)
        tr w ∧ w.state = ((reconcileTask {} edited).run Server.verbatim.exec s).2 ∧
      Holds "a" (buildPod old) w.state := by
  intro old edited s
  have hmatch : Matches edited (buildPod old) :=
    ⟨by decide, (podNeedsUpdate_congr rfl rfl rfl _).trans (podNeedsUpdate_buildPod old)⟩
  obtain ⟨tr, hrun⟩ := Pool.run_whole Calm Server.verbatim.exec
    (fun _ _ => (.served : Server.verbatim.Faulty _ _ _ _)) (w := (World.initial s : World Unit))
    (p := reconcileTask {} edited) rfl
    (.reconcile edited () (by decide) fun _ => hmatch : Keeping {} "a" (buildPod old) _ _)
  have hheld : Holds "a" (buildPod old) s := ⟨_, rfl, rfl, rfl⟩
  exact ⟨tr, _, hrun, rfl, pod_outlives hheld hrun _ (mem_visited_last _ _)⟩

end System
end AgentHosting
