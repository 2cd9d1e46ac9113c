import Mathlib.Tactic.IntervalCases
import AgentHosting.Lib.History
import AgentHosting.System.Adoption
import AgentHosting.System.Interference

/-!
# AgentHosting.System.Lineage

Where the children of Agents come from, over whole runs: the operator works on copies of the Agents
that may be old, any call may fail, pods are lost, the garbage collector and other clients are at
work.

* `Snapshot`, `FromStore` — the copies: a run starts from an Agent as it is stored, or was.
* `children_descend`      — every child is what the operator builds from an Agent that was stored
  under that name, and a pod from one that was to run.
* `stopped_stays_gone`    — the pod of an Agent that stays stopped does not come back.
* `nothing_leaks`         — where the garbage collector has nothing to do, each child has its Agent.
-/

namespace AgentHosting
namespace System

open Kube Prog Operator

/-! ## Copies of Agents -/

/-- What is stored under the Agent's name, decoded. -/
def Snapshot (s : Cluster) (agent : Agent) : Prop :=
  ∃ o, s.agents agent.nameAny = some o ∧ agent.metadata = o.metadata ∧
    AgentSpec.fromJson o.spec = some agent.spec ∧
    AgentStatus.fromStored o.status = some agent.status

/-- What happens besides the two programs: the nodes, the garbage collector, a pod lost, and
whatever other clients do to Agents. -/
inductive Outside : Cluster → Cluster → Prop where
  | node {s s' : Cluster} : Kubelet s s' → Outside s s'
  | collect {s s' : Cluster} : Collect s s' → Outside s s'
  | lost (s : Cluster) (n : String) : Outside s (s.set .pod n none)
  | agents {s s' : Cluster} : s'.objs = s.objs → Outside s s'

section Lineage

variable {Slot : Type} {S : Server} {ctx : Context}

/-- A reconcile run starts from an Agent as it is stored, or was at an earlier moment. -/
def FromStore (ctx : Context) (past : List (World Slot)) (_ : World Slot) (l : Label Slot) : Prop :=
  ∀ name slot p, l = .spawn (.operator name slot) p →
    ∃ agent : Agent, agent.nameAny = name ∧ p = reconcileTask ctx agent ∧
      ∃ v ∈ past, Snapshot v.state agent

theorem fromStore_of_snapshot {past : List (World Slot)} {w : World Slot} {agent : Agent}
    (hsnap : Snapshot w.state agent) (slot : Slot) (hw : w ∈ past) :
    FromStore ctx past w (.spawn (.operator agent.nameAny slot) (reconcileTask ctx agent)) := by
  rintro name slot p hl
  cases hl
  exact ⟨agent, rfl, rfl, w, hw, hsnap⟩

/-- The other steps start no run. -/
theorem fromStore_of_ne {past : List (World Slot)} {w : World Slot} {l : Label Slot}
    (hl : ∀ name slot p, l ≠ .spawn (.operator name slot) p) : FromStore ctx past w l :=
  fun name slot p h => (hl name slot p h).elim

/-- A call of a run for the Agent; a pod is created only where the Agent is to run. -/
def RunCall (ctx : Context) (agent : Agent) (c : Call) : Prop :=
  OperatorCall ctx agent c ∧ ∀ p : Pod, c = .create .pod p → agent.spec.state ≠ .stopped

theorem podStep_runCalls (ctx : Context) (agent : Agent) :
    (podStep agent).AllCalls (RunCall ctx agent) := by
  have hread : RunCall ctx agent (.getOpt .pod (podName agent.nameAny)) :=
    ⟨.read .pod, fun p h => by cases h⟩
  have hdelete : RunCall ctx agent (.delete .pod (podName agent.nameAny)) :=
    ⟨.deletePod, fun p h => by cases h⟩
  rw [podStep]
  by_cases hstate : agent.spec.state = .stopped
  · rw [if_pos hstate]
    exact deletePodIfExists_calls hread hdelete
  · rw [if_neg hstate]
    exact reconcilePod_calls hread hdelete ⟨.sleep 2, fun p h => by cases h⟩
      ⟨.create .pod, fun _ _ => hstate⟩

theorem ensure_runCalls (ctx : Context) (agent : Agent) {k : Kind} (hk : k ≠ .pod) :
    (ensureExists k (childName agent.nameAny k) (build ctx agent k)).run.AllCalls
      (RunCall ctx agent) := by
  refine ensureExists_calls ⟨.read k, fun p h => by cases h⟩ ⟨.create k, fun p h => ?_⟩
  cases k with
  | pod => exact (hk rfl).elim
  | _ => cases h

theorem reconcileTask_runCalls (ctx : Context) (agent : Agent) :
    (reconcileTask ctx agent).AllCalls (RunCall ctx agent) := by
  refine AllCalls.bind ?_ fun _ => trivial
  rw [reconcile_run]
  refine (ensure_runCalls ctx agent (k := .pvc) (by decide)).andThen fun _ => ?_
  refine (podStep_runCalls ctx agent).andThen fun _ => ?_
  refine (ensure_runCalls ctx agent (k := .netpol) (by decide)).andThen fun _ => ?_
  refine (ensure_runCalls ctx agent (k := .service) (by decide)).andThen fun _ => ?_
  refine (updateStatus_calls ⟨.read .pod, ?_⟩ ⟨.read .service, ?_⟩
    fun patch => ⟨.report patch, ?_⟩).andThen fun _ => trivial
  all_goals
    intro p h
    cases h

/-! ## Descent -/

/-- What a pod keeps of its creation: all but its node, its status and its deletion. -/
def asCreated (p : Pod) : Pod where
  metadata := { p.metadata with deletionTimestamp := none }
  spec := p.spec.map fun spec => { spec with nodeName := none }
  status := none

/-- The child is what was stored for the object built from the Agent; a pod may have been placed,
run and marked for deletion since. -/
def Descends (S : Server) (ctx : Context) (agent : Agent) : (k : Kind) → Obj k → Prop
  | .pod, p => agent.spec.state ≠ .stopped ∧
      asCreated p = asCreated (S.stored (k := .pod) (buildPod agent))
  | .pvc, o => o = S.stored (build ctx agent .pvc)
  | .netpol, o => o = S.stored (build ctx agent .netpol)
  | .service, o => o = S.stored (build ctx agent .service)

theorem descends_built {agent : Agent} {k : Kind}
    (hc : RunCall ctx agent (.create k (build ctx agent k))) :
    Descends S ctx agent k (S.stored (build ctx agent k)) := by
  cases k with
  | pod => exact ⟨hc.2 _ rfl, rfl⟩
  | _ => exact rfl

/-- The child comes from an Agent of this name that was stored in one of these states. -/
def Heir (S : Server) (ctx : Context) (past : List (World Slot)) (n : String) (k : Kind)
    (o : Obj k) : Prop :=
  ∃ v ∈ past, ∃ agent : Agent, agent.nameAny = n ∧ Snapshot v.state agent ∧
    Descends S ctx agent k o

/-- A task of the operator works for an Agent that was stored in one of these states. -/
def Lineal (ctx : Context) (past : List (World Slot)) :
    TaskId Slot → Prog Call Answer Outcome → Prop
  | .operator name _, p => ∃ agent : Agent, agent.nameAny = name ∧
      (∃ v ∈ past, Snapshot v.state agent) ∧ p.AllCalls (RunCall ctx agent)
  | .api _, p => p.AllCalls fun c => ∃ name, ApiCall name c

structure Ancestral (S : Server) (ctx : Context) (past : List (World Slot)) (w : World Slot) :
    Prop where
  tasks : w.ProgsIn (Lineal ctx past)
  heirs : ∀ n k o, w.state.objs k (childName n k) = some o → Heir S ctx past n k o

theorem Heir.grow {past : List (World Slot)} {n : String} {k : Kind} {o : Obj k}
    (h : Heir S ctx past n k o) (w : World Slot) : Heir S ctx (past ++ [w]) n k o := by
  obtain ⟨v, hv, h⟩ := h
  exact ⟨v, List.mem_append_left _ hv, h⟩

theorem Heir.ofPod {past : List (World Slot)} {n : String} {p q : Pod}
    (h : Heir S ctx past n .pod p) (hq : asCreated q = asCreated p) :
    Heir S ctx past n .pod q := by
  obtain ⟨v, hv, agent, hname, hsnap, hstate, hbuilt⟩ := h
  exact ⟨v, hv, agent, hname, hsnap, hstate, hq.trans hbuilt⟩

theorem Lineal.grow {past : List (World Slot)} {i : TaskId Slot} {p : Prog Call Answer Outcome}
    (h : Lineal ctx past i p) (w : World Slot) : Lineal ctx (past ++ [w]) i p := by
  cases i with
  | operator name slot =>
    obtain ⟨agent, hname, ⟨v, hv, hsnap⟩, hcalls⟩ := h
    exact ⟨agent, hname, ⟨v, List.mem_append_left _ hv, hsnap⟩, hcalls⟩
  | api n => exact h

theorem Lineal.next {past : List (World Slot)} {i : TaskId Slot} {c : Call}
    {k : Answer c → Prog Call Answer Outcome} (h : Lineal ctx past i (.call c k)) (r : Answer c) :
    Lineal ctx past i (k r) := by
  cases i with
  | operator name slot =>
    obtain ⟨agent, hname, hsnap, hcalls⟩ := h
    exact ⟨agent, hname, hsnap, hcalls.2 r⟩
  | api n => exact h.2 r

theorem Lineal.taskCall {past : List (World Slot)} {i : TaskId Slot} {c : Call}
    {k : Answer c → Prog Call Answer Outcome} (h : Lineal ctx past i (.call c k)) :
    TaskCall ctx i c := by
  cases i with
  | operator name slot =>
    obtain ⟨agent, hname, -, hcalls⟩ := h
    exact ⟨agent, hname, hcalls.1.1⟩
  | api n => exact h.1

theorem operatorCall_create {agent : Agent} {k : Kind} {o : Obj k}
    (h : OperatorCall ctx agent (.create k o)) : o = build ctx agent k := by
  cases h
  rfl

/-- A child that a task creates comes from the Agent the task works for. -/
theorem Lineal.heir {past : List (World Slot)} {i : TaskId Slot} {built : Agent} {k : Kind}
    {next : Answer (.create k (build ctx built k)) → Prog Call Answer Outcome}
    (h : Lineal ctx past i (.call (.create k (build ctx built k)) next)) :
    Heir S ctx past built.nameAny k (S.stored (build ctx built k)) := by
  cases i with
  | operator name slot =>
    obtain ⟨agent, -, ⟨v, hv, hsnap⟩, hcalls⟩ := h
    have hbuilt := operatorCall_create hcalls.1.1
    have hname : agent.nameAny = built.nameAny := by
      have hobj := congrArg objName hbuilt
      rw [objName_build, objName_build] at hobj
      exact (childName_injective hobj).symm
    have hcall := hcalls.1
    rw [hbuilt] at hcall ⊢
    exact ⟨v, hv, agent, hname, hsnap, descends_built hcall⟩
  | api n =>
    obtain ⟨name, hc⟩ := h.1
    cases hc

/-- A write to one child, in front of the others. -/
theorem heirs_set {past : List (World Slot)} {s : Cluster} {k : Kind} {m : String}
    {x : Option (Obj k)} (h : ∀ n k o, s.objs k (childName n k) = some o → Heir S ctx past n k o)
    (hx : ∀ n o, m = childName n k → x = some o → Heir S ctx past n k o) :
    ∀ n k' o, (s.set k m x).objs k' (childName n k') = some o → Heir S ctx past n k' o := by
  intro n k' o ho
  rcases Cluster.set_objs_cases s k k' m (childName n k') x with ⟨rfl, hname, hset⟩ | hset
  · exact hx n o hname.symm (hset.symm.trans ho)
  · exact h n k' o (hset.symm.trans ho)

theorem asCreated_remains {p q : Pod} (h : S.remains (k := .pod) p = some q) :
    asCreated q = asCreated p := by
  simp only [Server.remains] at h
  split at h
  · rw [← Option.some.inj h]
    rfl
  · cases h

theorem heirs_call {past : List (World Slot)} {w : World Slot} {i : TaskId Slot} {c : Call}
    {k : Answer c → Prog Call Answer Outcome} {r : Answer c} {s' : Cluster}
    (h : Ancestral S ctx past w) (hi : w.progs i = some (.call c k))
    (hs : S.Faulty w.state c r s') :
    ∀ n k o, s'.objs k (childName n k) = some o → Heir S ctx past n k o := by
  have htask := h.tasks i _ hi
  rcases taskCall_effect htask.taskCall hs with hobjs | ⟨built, k', rfl, -, rfl⟩ | ⟨m, p, hp, rfl⟩
  · rw [hobjs]
    exact h.heirs
  · refine heirs_set h.heirs fun n o hname ho => ?_
    obtain rfl := childName_injective hname
    rw [← Option.some.inj ho]
    exact htask.heir
  · refine heirs_set h.heirs fun n q hname hq => ?_
    obtain rfl := podName_injective hname
    exact (h.heirs m .pod p hp).ofPod (asCreated_remains hq)

theorem heirs_outside {past : List (World Slot)} {s s' : Cluster}
    (h : ∀ n k o, s.objs k (childName n k) = some o → Heir S ctx past n k o)
    (hs : Outside s s') : ∀ n k o, s'.objs k (childName n k) = some o → Heir S ctx past n k o := by
  cases hs with
  | node hs =>
    cases hs with
    | finish _ _ => exact heirs_set h fun n o _ ho => by cases ho
    | @report m p nodeName status hp =>
      refine heirs_set h fun n q hname hq => ?_
      have hp' : s.objs .pod (childName n .pod) = some p := by rw [← hname]; exact hp
      refine (h n .pod p hp').ofPod ?_
      rw [← Option.some.inj hq]
      cases hspec : p.spec <;> simp [asCreated, hspec]
  | collect hs =>
    cases hs with
    | remove _ _ _ => exact heirs_set h fun n o _ ho => by cases ho
  | lost m => exact heirs_set h fun n o _ ho => by cases ho
  | agents hobjs =>
    rw [hobjs]
    exact h

section Runs

variable [DecidableEq Slot]

/-- One step of the whole system; any call may fail, with or without its effect. -/
abbrev SystemStep (S : Server) (ctx : Context) : World Slot → Label Slot → World Slot → Prop :=
  Pool.Step (Spawns ctx) S.Faulty Outside

theorem lineal_spawn {past : List (World Slot)} {w w' : World Slot} {l : Label Slot}
    (hg : FromStore ctx past w l) (hs : SystemStep S ctx w l w') :
    ∀ i p, l = .spawn i p → Lineal ctx past i p := by
  rintro (⟨name, slot⟩ | n) p rfl
  · obtain ⟨agent, hname, rfl, hsnap⟩ := hg name slot p rfl
    exact ⟨agent, hname, hsnap, reconcileTask_runCalls ctx agent⟩
  · cases hs with
    | spawn _ hp => exact spawns_calls hp

theorem ancestral_step (past : List (World Slot)) (w : World Slot) (l : Label Slot)
    (w' : World Slot) (h : Ancestral S ctx past w) (hg : FromStore ctx past w l)
    (hs : SystemStep S ctx w l w') : Ancestral S ctx (past ++ [w']) w' := by
  refine ⟨Pool.progs_past (P := Lineal ctx) (fun _ w _ _ h => h.grow w)
    (fun _ _ _ _ h r => h.next r) h.tasks (lineal_spawn hg hs) hs,
    fun n k o ho => Heir.grow ?_ w'⟩
  cases hs with
  | spawn _ _ => exact h.heirs n k o ho
  | call hi hserve => exact heirs_call h hi hserve n k o ho
  | exit _ => exact h.heirs n k o ho
  | env he => exact heirs_outside h.heirs he n k o ho

theorem ancestral_run {s : Cluster} (hnone : ∀ n k, s.objs k (childName n k) = none)
    {w : World Slot} {tr : List (World Slot × Label Slot)}
    (hrun : Run (SystemStep S ctx) (World.initial s) tr w) (hstore : Recalls (FromStore ctx) tr) :
    Ancestral S ctx (visited tr w) w := by
  refine hrun.invariant_past ancestral_step hstore
    ⟨World.initial_progsIn _ s, fun n k o ho => ?_⟩
  rw [show (World.initial s : World Slot).state.objs k (childName n k) = none from hnone n k] at ho
  cases ho

/-- In every run from a cluster without children whose reconcile runs start from stored Agents, new
or old: every child is what the operator builds from an Agent that was stored under its name, and
for a pod one whose desired state was not `stopped`. -/
theorem children_descend {s : Cluster} (hnone : ∀ n k, s.objs k (childName n k) = none)
    {w : World Slot} {tr : List (World Slot × Label Slot)}
    (hrun : Run (SystemStep S ctx) (World.initial s) tr w) (hstore : Recalls (FromStore ctx) tr)
    {n : String} {k : Kind} {o : Obj k} (ho : w.state.objs k (childName n k) = some o) :
    Heir S ctx (visited tr w) n k o :=
  (ancestral_run hnone hrun hstore).heirs n k o ho

end Runs

/-! ## A stop is final -/

/-- What is stored under the name is not to run. -/
def StoredStopped (name : String) (s : Cluster) : Prop :=
  ∀ agent : Agent, agent.nameAny = name → Snapshot s agent → agent.spec.state = .stopped

/-- The program creates no pod for the Agent called `name`. -/
def NoPodFor (name : String) (p : Prog Call Answer Outcome) : Prop :=
  p.AllCalls fun c => ∀ q : Pod, c = .create .pod q → objName (k := .pod) q ≠ podName name

structure StaysGone (ctx : Context) (name : String) (past : List (World Slot)) (w : World Slot) :
    Prop where
  tasks : w.TasksIn (TaskCall ctx)
  idle : ∀ slot p, w.progs (.operator name slot) = some p → NoPodFor name p
  gone : ∀ v ∈ past, v.state.objs .pod (podName name) = none
  here : w ∈ past

theorem noPodFor_stopped {agent : Agent} (hstopped : agent.spec.state = .stopped) (name : String) :
    NoPodFor name (reconcileTask ctx agent) :=
  (reconcileTask_runCalls ctx agent).mono fun _ hc q hq => (hc.2 q hq hstopped).elim

/-- A call that makes a pod of this name appear is the create of a run for this name. -/
theorem gone_call {name : String} {i : TaskId Slot} {c : Call} {r : Answer c} {s s' : Cluster}
    (hc : TaskCall ctx i c) (hs : S.Faulty s c r s')
    (hcreate : ∀ slot (q : Pod), i = .operator name slot → c = .create .pod q →
      objName (k := .pod) q ≠ podName name)
    (hgone : s.objs .pod (podName name) = none) : s'.objs .pod (podName name) = none := by
  rcases taskCall_effect hc hs with hobjs | ⟨built, k, rfl, -, rfl⟩ | ⟨m, p, hp, rfl⟩
  · rw [hobjs]
    exact hgone
  · by_cases hk : Kind.pod = k
    · subst hk
      by_cases hname : podName name = podName built.nameAny
      · -- the run is for this name, so it is not one that creates the pod
        obtain rfl := podName_injective hname
        cases i with
        | operator other slot =>
          obtain ⟨agent, rfl, hcall⟩ := hc
          have hbuilt := operatorCall_create hcall
          have hother := congrArg objName hbuilt
          rw [objName_build, objName_build] at hother
          obtain hsame := childName_injective hother
          exact (hcreate slot _ (by rw [hsame]) rfl (objName_build ctx built .pod)).elim
        | api n =>
          obtain ⟨m, hcall⟩ := hc
          cases hcall
      · rw [← hgone]
        exact Cluster.set_other_name s .pod hname _
    · rw [← hgone]
      exact Cluster.set_other_kind s hk _ _ _
  · by_cases hname : podName name = podName m
    · rw [hname, hp] at hgone
      cases hgone
    · rw [← hgone]
      exact Cluster.set_other_name s .pod hname _

theorem gone_outside {name : String} {s s' : Cluster} (hs : Outside s s')
    (hgone : s.objs .pod (podName name) = none) : s'.objs .pod (podName name) = none := by
  have hset : ∀ {k : Kind} {m : String}, (s.set k m none).objs .pod (podName name) = none := by
    intro k m
    rcases Cluster.set_objs_cases s k .pod m (podName name) none with ⟨rfl, -, hset⟩ | hset
    · exact hset
    · rw [hset, hgone]
  cases hs with
  | node hs =>
    cases hs with
    | finish _ _ => exact hset
    | @report m p nodeName status hp =>
      have hname : podName name ≠ m := by
        rintro rfl
        rw [hp] at hgone
        cases hgone
      rw [← hgone]
      exact Cluster.set_other_name s .pod hname _
  | collect hs =>
    cases hs with
    | remove _ _ _ => exact hset
  | lost m => exact hset
  | agents hobjs =>
    rw [hobjs]
    exact hgone

section Runs

variable [DecidableEq Slot]

theorem staysGone_step {name : String} {past : List (World Slot)} {w w' : World Slot}
    {l : Label Slot} (h : StaysGone ctx name past w)
    (hstopped : ∀ v ∈ past, StoredStopped name v.state) (hg : FromStore ctx past w l)
    (hs : SystemStep S ctx w l w') : StaysGone ctx name (past ++ [w']) w' := by
  have hgone := h.gone w h.here
  have hgone' : w'.state.objs .pod (podName name) = none := by
    cases hs with
    | spawn _ _ => exact hgone
    | exit _ => exact hgone
    | env he => exact gone_outside he hgone
    | @call i c k r s' hi hserve =>
      refine gone_call (h.tasks _ _ hi).1 hserve ?_ hgone
      rintro slot q rfl rfl
      exact (h.idle slot _ hi).1 q rfl
  have hidle : w'.ProgsIn fun i p => ∀ slot, i = .operator name slot → NoPodFor name p := by
    refine Pool.progs_step (fun i p hp slot hi => ?_) (fun _ _ _ hp r slot hi => (hp slot hi).2 r)
      (fun i p hp slot hi => h.idle slot p (by rw [← hi]; exact hp)) hs.narrow
    subst hi
    obtain ⟨agent, hname, rfl, v, hv, hsnap⟩ := hg name slot p hp
    exact noPodFor_stopped (hstopped v hv agent hname hsnap) name
  refine ⟨Pool.tasks_step (A := TaskCall ctx) (fun _ _ => spawns_calls) h.tasks hs,
    fun slot p hp => hidle _ p hp slot rfl, fun v hv => ?_, by simp⟩
  rcases List.mem_append.mp hv with hv | hv
  · exact h.gone v hv
  · obtain rfl := List.mem_singleton.mp hv
    exact hgone'

/-- As long as the Agent stays stored as stopped, or is not stored: once its pod is gone and the
runs under way create none, the pod does not come back, whatever is requested, fails or is lost. -/
theorem stopped_stays_gone {name : String} {w₀ w : World Slot}
    {tr : List (World Slot × Label Slot)} (htasks : w₀.TasksIn (TaskCall ctx))
    (hidle : ∀ slot p, w₀.progs (.operator name slot) = some p → NoPodFor name p)
    (hgone : w₀.state.objs .pod (podName name) = none)
    (hrun : Run (SystemStep S ctx) w₀ tr w) (hstore : Recalls (FromStore ctx) tr)
    (hstopped : ∀ v ∈ visited tr w, StoredStopped name v.state) :
    ∀ v ∈ visited tr w, v.state.objs .pod (podName name) = none := by
  have hinitial : StaysGone ctx name [w₀] w₀ :=
    ⟨htasks, hidle, by simpa using hgone, by simp⟩
  have hgone := hrun.invariant_past
    (I := fun past v => (∀ u ∈ past, StoredStopped name u.state) → StaysGone ctx name past v)
    (fun past v l v' h hg hs hall => by
      have hpast : ∀ u ∈ past, StoredStopped name u.state :=
        fun u hu => hall u (List.mem_append_left _ hu)
      exact staysGone_step (h hpast) hpast hg hs)
    hstore fun _ => hinitial
  exact (hgone hstopped).gone

end Runs

/-! ## Nothing leaks -/

/-- Agents of different names never have one uid, at whatever time they are stored, and each has
one. -/
structure UidsUnique (states : List (World Slot)) : Prop where
  given : ∀ v ∈ states, ∀ n o, v.state.agents n = some o → o.metadata.uid.isSome
  distinct : ∀ v ∈ states, ∀ v' ∈ states, ∀ n n' o o', v.state.agents n = some o →
    v'.state.agents n' = some o' → o.metadata.uid = o'.metadata.uid → n = n'

/-- What the API server stores of a new object's metadata: at least its owners. -/
def KeepsOwners (S : Server) : Prop :=
  ∀ {k : Kind} (o : Obj k), (metadata (S.stored o)).ownerReferences = (metadata o).ownerReferences

theorem Descends.owner (hS : KeepsOwners S) {agent : Agent} {k : Kind} {o : Obj k}
    (h : Descends S ctx agent k o) :
    (metadata o).ownerReferences = some [ownerReference agent] := by
  have hbuilt : (metadata (S.stored (build ctx agent k))).ownerReferences =
      some [ownerReference agent] := by
    rw [hS, metadata_build]
    rfl
  cases k with
  | pod =>
    have howners := congrArg (fun p : Pod => p.metadata.ownerReferences) h.2
    exact Eq.trans howners hbuilt
  | _ =>
    rw [show o = _ from h]
    exact hbuilt

section Runs

variable [DecidableEq Slot]

/-- Where the garbage collector has nothing left to do, no child is left of an Agent that is not
there any more. -/
theorem nothing_leaks (hS : KeepsOwners S) {s : Cluster}
    (hnone : ∀ n k, s.objs k (childName n k) = none) {w : World Slot}
    {tr : List (World Slot × Label Slot)} (hrun : Run (SystemStep S ctx) (World.initial s) tr w)
    (hstore : Recalls (FromStore ctx) tr) (huids : UidsUnique (visited tr w))
    (hquiet : ∀ s', ¬ Collect w.state s') {n : String} {k : Kind}
    (hchild : (w.state.objs k (childName n k)).isSome) : (w.state.agents n).isSome := by
  obtain ⟨o, ho⟩ := Option.isSome_iff_exists.mp hchild
  obtain ⟨v, hv, agent, rfl, ⟨a, ha, hmeta, -, -⟩, hdesc⟩ :=
    (ancestral_run hnone hrun hstore).heirs n k o ho
  have howner := hdesc.owner hS
  obtain ⟨uid, huid⟩ := Option.isSome_iff_exists.mp (huids.given v hv _ a ha)
  -- the owner is still there, or the child would be garbage
  have hlive : ∃ m b, w.state.agents m = some b ∧ b.metadata.uid = some uid := by
    by_contra hdead
    refine hquiet _ (.remove ho (by rw [howner]; simp) fun ref href m b hb hb' => hdead ?_)
    rw [howner] at href
    obtain rfl := List.mem_singleton.mp href
    refine ⟨m, b, hb, hb'.trans ?_⟩
    simp only [ownerReference, hmeta, huid, Option.getD_some]
  obtain ⟨m, b, hb, hb'⟩ := hlive
  obtain rfl := huids.distinct v hv w (mem_visited_last tr w) _ _ a b ha hb (huid.trans hb'.symm)
  rw [hb]
  rfl

end Runs

end Lineage

/-! ## A run -/

section Sample

variable (state : AgentState)

def sampleAlone : World Unit := World.initial (Agent.sample "a" "uid-1" state).alone

theorem sampleAlone_agents {n : String} {o : AgentObject}
    (h : (sampleAlone state).state.agents n = some o) :
    n = "a" ∧ o = ⟨(Agent.sample "a" "uid-1" state).metadata,
      (Agent.sample "a" "uid-1" state).spec.toJson, none⟩ := by
  by_cases hn : n = "a"
  · subst hn
    exact ⟨rfl, (Option.some.inj h).symm⟩
  · rw [show (sampleAlone state).state.agents n = none from Cluster.setAgent_other _ hn _] at h
    cases h

/-- The Agent has been reconciled as far as its first `n` calls. -/
def sampleBegun (n : Nat) : World Unit :=
  (sampleAlone state).advanced Server.verbatim.exec (.operator "a" ())
    (reconcileTask {} (Agent.sample "a" "uid-1" state)) n

theorem run_begun (n : Nat) (hagents : ∀ m ≤ n, ((reconcileTask {} (Agent.sample "a" "uid-1"
      state)).after Server.verbatim.exec m (sampleAlone state).state).2.agents =
      (sampleAlone state).state.agents) :
    ∃ tr, Run (SystemStep Server.verbatim {}) (sampleAlone state) tr (sampleBegun state n) ∧
      Recalls (FromStore {}) tr ∧ ∀ v ∈ visited tr (sampleBegun state n),
        v.state.agents = (sampleAlone state).state.agents := by
  have hspawn : SystemStep Server.verbatim {} (sampleAlone state)
      (.spawn (.operator "a" ()) (reconcileTask {} (Agent.sample "a" "uid-1" state))) _ :=
    .spawn rfl (.reconcile (Agent.sample "a" "uid-1" state) () : Spawns {} _ _)
  obtain ⟨tr, hrun, hcalls⟩ := Pool.run_after (Spawns {}) Outside Server.verbatim.exec
    (i := (.operator "a" () : TaskId Unit)) n (reconcileTask {} (Agent.sample "a" "uid-1" state))
    (sampleAlone state) fun _ _ _ _ => Server.Faulty.served (S := Server.verbatim)
  have hsnap : Snapshot (sampleAlone state).state (Agent.sample "a" "uid-1" state) := by
    refine ⟨_, rfl, rfl, ?_, rfl⟩
    cases state <;> rfl
  refine ⟨_, (Run.single hspawn).trans hrun, .of_forall fun e he past hpast => ?_, fun v hv => ?_⟩
  · rcases List.mem_append.mp he with he | he
    · obtain rfl := List.mem_singleton.mp he
      exact fromStore_of_snapshot hsnap () hpast
    · obtain ⟨m, -, -, c, r, -, hcall⟩ := hcalls e he
      rw [hcall]
      exact fromStore_of_ne nofun
  · rcases List.mem_append.mp hv with hv | hv
    · obtain ⟨e, he, rfl⟩ := List.mem_map.mp hv
      rcases List.mem_append.mp he with he | he
      · obtain rfl := List.mem_singleton.mp he
        rfl
      · obtain ⟨m, hm, hstate, -⟩ := hcalls e he
        rw [hstate]
        exact hagents m (by omega)
    · obtain rfl := List.mem_singleton.mp hv
      exact hagents n (Nat.le_refl n)

end Sample

theorem children_descend_pod : ∃ tr : List (World Unit × Label Unit), Heir Server.verbatim {}
    (visited tr (sampleBegun .running 4)) "a" .pod
    (buildPod (Agent.sample "a" "uid-1" .running)) := by
  obtain ⟨tr, hrun, hstore, -⟩ := run_begun .running 4 fun m hm => by interval_cases m <;> rfl
  exact ⟨tr, children_descend (fun n k => by cases k <;> rfl) hrun hstore rfl⟩

theorem stopped_stays_gone_reconciled : ∃ tr, Run (SystemStep Server.verbatim {})
      (sampleAlone .stopped) tr (sampleBegun .stopped 5) ∧
    ∀ v ∈ visited tr (sampleBegun .stopped 5), v.state.objs .pod (podName "a") = none := by
  obtain ⟨tr, hrun, hstore, hagents⟩ :=
    run_begun .stopped 5 fun m hm => by interval_cases m <;> rfl
  refine ⟨tr, hrun, stopped_stays_gone (World.initial_tasksIn _ _) (fun slot p hp => ?_) rfl hrun
    hstore fun v hv agent hname hsnap => ?_⟩
  · cases hp
  · obtain ⟨o, ho, -, hspec, -⟩ := hsnap
    rw [hname, hagents v hv] at ho
    obtain rfl := Option.some.inj ho
    rw [← Option.some.inj hspec]

/-- Runs for two Agents, and the request that deletes the second of them. -/
def sampleLeaving : World Unit :=
  (((World.initial samplePairStored).setProg (.operator "a" ())
    (some (reconcileTask {} (Agent.sample "a" "uid-1" .running)))).setProg (.operator "b" ())
    (some (reconcileTask {} (Agent.sample "b" "uid-2" .running)))).setProg (.api 0)
    (some (requestTask (.delete "b") 0 []))

/-- Both runs have created a claim when the second Agent is deleted. -/
def sampleLeavingTurns : List (TaskId Unit) :=
  [.operator "b" (), .operator "b" (), .operator "a" (), .operator "a" (), .api 0, .api 0]

def sampleLeft : World Unit := sampleLeaving.schedule Server.verbatim.exec sampleLeavingTurns

def sampleSwept : World Unit :=
  { sampleLeft with state := sampleLeft.state.set .pvc "agent-b-data" none }

theorem samplePairStored_agents {n : String} {o : AgentObject}
    (h : samplePairStored.agents n = some o) :
    (n = "a" ∧ o.metadata.uid = some "uid-1") ∨ (n = "b" ∧ o.metadata.uid = some "uid-2") := by
  by_cases hb : n = "b"
  · subst hb
    cases h
    exact .inr ⟨rfl, rfl⟩
  · rw [samplePairStored, Cluster.setAgent_other _ hb] at h
    obtain ⟨rfl, rfl⟩ := sampleAlone_agents .running h
    exact .inl ⟨rfl, rfl⟩

theorem sampleLeft_agents {n : String} {o : AgentObject} (h : sampleLeft.state.agents n = some o) :
    n = "a" := by
  by_cases hb : n = "b"
  · subst hb
    cases h
  · have hkept : sampleLeft.state.agents n = samplePairStored.agents n :=
      Cluster.setAgent_other samplePairStored hb none
    rw [hkept] at h
    exact (samplePairStored_agents h).elim And.left fun hn => (hb hn.1).elim

/-- Of the two claims, the first is left. -/
theorem sampleSwept_objs {k : Kind} {n : String} {o : Obj k}
    (h : sampleSwept.state.objs k n = some o) :
    metadata o = metadata (k := .pvc) (buildPvc none (Agent.sample "a" "uid-1" .running)) := by
  let first := buildPvc none (Agent.sample "a" "uid-1" .running)
  let second := buildPvc none (Agent.sample "b" "uid-2" .running)
  let both := (samplePairStored.set .pvc (pvcName "b") (some second)).set .pvc (pvcName "a")
    (some first)
  rcases Cluster.set_objs_cases both .pvc k (pvcName "b") n none with ⟨rfl, rfl, hset⟩ | hset
  · cases Eq.trans (Eq.symm hset) h
  rcases Cluster.set_objs_cases (samplePairStored.set .pvc (pvcName "b") (some second)) .pvc k
    (pvcName "a") n (some first) with ⟨rfl, rfl, hset'⟩ | hset'
  · cases (Eq.trans (Eq.symm hset') (Eq.trans (Eq.symm hset) h))
    rfl
  rcases Cluster.set_objs_cases samplePairStored .pvc k (pvcName "b") n (some second) with
    ⟨rfl, rfl, hset''⟩ | hset''
  · cases h
  · cases Eq.trans (Eq.symm hset'') (Eq.trans (Eq.symm hset') (Eq.trans (Eq.symm hset) h))

theorem run_swept : ∃ tr, Run (SystemStep Server.verbatim {}) (World.initial samplePairStored) tr
      sampleSwept ∧ Recalls (FromStore {}) tr ∧
    ∀ v ∈ visited tr sampleSwept, ∀ n o, v.state.agents n = some o →
      samplePairStored.agents n = some o := by
  have hspawned : Run (SystemStep Server.verbatim {}) (World.initial samplePairStored) _
      sampleLeaving :=
    .snoc (.snoc (.snoc .nil
      (.spawn rfl (.reconcile (Agent.sample "a" "uid-1" .running) () : Spawns {} _ _)))
      (.spawn rfl (.reconcile (Agent.sample "b" "uid-2" .running) () : Spawns {} _ _)))
      (.spawn rfl (.request (.delete "b") 0 [] 0 : Spawns {} _ _))
  have hturns : Run (SystemStep Server.verbatim {}) sampleLeaving _ sampleLeft :=
    Pool.run_schedule Server.verbatim.exec (fun _ _ => .served) _ _
  have hgarbage : Collect sampleLeft.state sampleSwept.state := by
    refine .remove (k := .pvc) rfl (by decide) fun ref href m a ha => ?_
    obtain rfl := List.mem_singleton.mp href
    obtain rfl := sampleLeft_agents ha
    cases ha
    decide
  refine ⟨_, .snoc (hspawned.trans hturns) (.env (.collect hgarbage)), ?_, ?_⟩
  · have hstarts : ∀ {w : World Unit} {agent : Agent}, Snapshot w.state agent →
        ∀ past, w ∈ past → FromStore {} past w
          (.spawn (.operator agent.nameAny ()) (reconcileTask {} agent)) :=
      fun hsnap _ => fromStore_of_snapshot hsnap ()
    have hother : ∀ {w : World Unit} {l : Label Unit},
        (∀ name slot p, l ≠ .spawn (.operator name slot) p) →
        ∀ past, w ∈ past → FromStore {} past w l :=
      fun hl _ _ => fromStore_of_ne hl
    refine .of_forall (List.forall_iff_forall_mem.mp ?_)
    exact ⟨hstarts ⟨_, rfl, rfl, rfl, rfl⟩, hstarts ⟨_, rfl, rfl, rfl, rfl⟩, hother nofun,
      hother nofun, hother nofun, hother nofun, hother nofun, hother nofun, hother nofun,
      hother nofun⟩
  · -- the Agents are as they were until the call that deletes one of them
    have hsame : ∀ {v : World Unit}, v.state.agents = samplePairStored.agents → ∀ n o,
        v.state.agents n = some o → samplePairStored.agents n = some o := by
      intro v hv n o ho
      rwa [← hv]
    have hleft : ∀ n o, sampleLeft.state.agents n = some o →
        samplePairStored.agents n = some o := by
      intro n o ho
      obtain rfl := sampleLeft_agents ho
      exact ho
    rw [← List.forall_iff_forall_mem]
    exact ⟨hsame rfl, hsame rfl, hsame rfl, hsame rfl, hsame rfl, hsame rfl, hsame rfl, hsame rfl,
      hsame rfl, hleft, hleft⟩

/-- The second Agent is gone with its claim, while the first is still there with its own. -/
theorem nothing_leaks_swept : ∃ tr, Run (SystemStep Server.verbatim {})
      (World.initial samplePairStored) tr sampleSwept ∧
    (∀ n k, (sampleSwept.state.objs k (childName n k)).isSome →
      (sampleSwept.state.agents n).isSome) ∧
    sampleSwept.state.agents "b" = none ∧
    (sampleSwept.state.objs .pvc (childName "a" .pvc)).isSome := by
  obtain ⟨tr, hrun, hstore, hagents⟩ := run_swept
  refine ⟨tr, hrun, fun n k => nothing_leaks (fun o => rfl) (fun n k => by cases k <;> rfl) hrun
    hstore ⟨fun v hv n o ho => ?_, fun v hv v' hv' n n' o o' ho ho' huid => ?_⟩ ?_, rfl, rfl⟩
  · rcases samplePairStored_agents (hagents v hv n o ho) with ⟨-, h⟩ | ⟨-, h⟩ <;> rw [h] <;> rfl
  · rcases samplePairStored_agents (hagents v hv n o ho) with ⟨rfl, h⟩ | ⟨rfl, h⟩ <;>
      rcases samplePairStored_agents (hagents v' hv' n' o' ho') with ⟨rfl, h'⟩ | ⟨rfl, h'⟩ <;>
      simp [h, h'] at huid ⊢
  · -- the first claim is the only object left, and its owner is there
    intro s' hs
    cases hs with
    | @remove k n o ho _ hdead =>
      rw [sampleSwept_objs ho] at hdead
      exact hdead _ (List.mem_singleton.mpr rfl) "a" _ rfl rfl

end System
end AgentHosting
