import AgentHosting.Lib.Pool
import AgentHosting.Api.Handlers
import AgentHosting.Operator.Reconcile

/-!
# AgentHosting.System.Tasks

The two programs as the tasks of one pool over one cluster: reconcile runs of the operator, and
requests of the API server with the streams they answer.

* `request_calls`  — the calls a request can make.
* `spawns_calls`   — the calls of every task of the pool.
-/

namespace AgentHosting
namespace System

open Kube Prog

inductive Outcome where
  | reconciled (r : Except KubeError Operator.Action)
  | answered (r : Except Api.AppError Api.StreamRun)

def reconcileTask (ctx : Operator.Context) (agent : Operator.Agent) : Prog Call Answer Outcome :=
  (Operator.reconcile ctx agent).run.bind fun r => .ret (.reconciled r)

/-- What a request does with the answer of its handler: its stream is first polled when the clock
reads `start`, and gets the readings in `clock`. -/
def afterHandler (name : String) (start : Api.Instant) (clock : List Api.Instant) :
    Except Api.AppError Api.Stream → Prog Call Answer Outcome
  | .ok stream => (Api.watch stream name start clock []).bind fun run => .ret (.answered (.ok run))
  | .error e => .ret (.answered (.error e))

def requestTask (r : Api.Request) (start : Api.Instant) (clock : List Api.Instant) :
    Prog Call Answer Outcome :=
  r.handler.bind (afterHandler r.name start clock)

/-! ## The calls of a request -/

/-- The calls a request about the instance `name` can make. -/
inductive ApiCall (name : String) : Call → Prop where
  | read : ApiCall name (.getAgent name)
  | create {o : AgentObject} : o.metadata.name = some name → ApiCall name (.createAgent o)
  | delete : ApiCall name (.deleteAgent name)
  | patch (p : Json) : ApiCall name (.patchAgent name p)
  | deletePod : ApiCall name (.delete .pod (Operator.podName name))

theorem fromKube_calls {α : Type} {A : Call → Prop} {p : Prog Call Answer (Except KubeError α)}
    (h : p.AllCalls A) : (Api.fromKube p).run.AllCalls A := by
  refine h.bind fun r => ?_
  cases r <;> trivial

theorem getOptAgent_calls {A : Call → Prop} {name : String} (hread : A (.getAgent name)) :
    (Api.getOptAgent name).AllCalls A :=
  ⟨hread, fun _ => trivial⟩

theorem requireAgent_calls {A : Call → Prop} {name : String} (hread : A (.getAgent name)) :
    (Api.requireAgent name).run.AllCalls A := by
  rw [Api.requireAgent, exceptT_bind]
  refine (fromKube_calls (getOptAgent_calls hread)).andThen fun r => ?_
  cases r <;> trivial

theorem createInstance_calls {A : Call → Prop} {uuid : String} {req : Api.CreateInstanceRequest}
    (hread : A (.getAgent (Api.Request.create uuid req).name))
    (hcreate : A (.createAgent ⟨{ name := some (Api.Request.create uuid req).name },
      (Api.requestedSpec req).toJson, none⟩)) :
    (Api.createInstance uuid req).run.AllCalls A := by
  unfold Api.createInstance
  split
  · trivial
  · show AllCalls _ (ExceptT.run (_ >>= _))
    rw [exceptT_bind]
    refine (fromKube_calls (getOptAgent_calls hread)).andThen fun r => ?_
    cases r with
    | some agent => trivial
    | none =>
      rw [exceptT_bind]
      refine (fromKube_calls ?_).andThen fun _ => trivial
      exact ⟨hcreate, fun _ => trivial⟩

theorem patchState_calls {A : Call → Prop} {name state : String} (stream : Api.Stream)
    (hread : A (.getAgent name)) (hpatch : A (.patchAgent name (Api.statePatch state))) :
    (do
      let _ ← Api.requireAgent name
      Api.fromKube (request (.patchAgent name (Api.statePatch state)))
      pure stream : Api.Handler Api.Stream).run.AllCalls A := by
  rw [exceptT_bind]
  refine (requireAgent_calls hread).andThen fun _ => ?_
  rw [exceptT_bind]
  refine (fromKube_calls ?_).andThen fun _ => trivial
  exact ⟨hpatch, fun _ => trivial⟩

theorem restartInstance_calls {A : Call → Prop} {name : String} (hread : A (.getAgent name))
    (hdelete : A (.delete .pod (Operator.podName name))) :
    (Api.restartInstance name).run.AllCalls A := by
  rw [Api.restartInstance, exceptT_bind]
  refine (requireAgent_calls hread).andThen fun _ => ?_
  rw [exceptT_bind]
  refine AllCalls.andThen ?_ fun _ => trivial
  exact ⟨hdelete, fun _ => trivial⟩

theorem deleteInstance_calls {A : Call → Prop} {name : String} (hread : A (.getAgent name))
    (hdelete : A (.deleteAgent name)) : (Api.deleteInstance name).AllCalls A := by
  refine (getOptAgent_calls hread).bind fun r => ?_
  rcases r with e | _ | agent
  · trivial
  · trivial
  · refine AllCalls.bind (p := request (.deleteAgent name)) ⟨hdelete, fun _ => trivial⟩ fun r => ?_
    rcases r with e | ⟨⟩ <;> trivial

theorem request_calls (r : Api.Request) : r.handler.AllCalls (ApiCall r.name) := by
  cases r with
  | create uuid req => exact createInstance_calls .read (.create rfl)
  | start name => exact patchState_calls _ .read (.patch _)
  | stop name => exact patchState_calls _ .read (.patch _)
  | restart name => exact restartInstance_calls .read .deletePod
  | delete name => exact (deleteInstance_calls .read .delete).bind fun _ => trivial

theorem watch_calls {A : Call → Prop} {name : String} (hread : A (.getAgent name))
    (stream : Api.Stream) (start : Api.Instant) (clock : List Api.Instant)
    (polls : List Api.Poll) : (Api.watch stream name start clock polls).AllCalls A := by
  induction clock generalizing polls with
  | nil => trivial
  | cons now clock ih =>
    unfold Api.watch
    split
    · trivial
    · exact (getOptAgent_calls hread).bind fun answer => ih _

/-- A request makes the calls of its handler, and reads the Agent as long as its stream goes on. -/
theorem requestTask_calls {A : Call → Prop} {r : Api.Request} (hread : A (.getAgent r.name))
    (hhandler : r.handler.AllCalls A) (start : Api.Instant) (clock : List Api.Instant) :
    (requestTask r start clock).AllCalls A := by
  refine hhandler.bind fun a => ?_
  cases a with
  | ok stream => exact (watch_calls hread stream start clock []).bind fun _ => trivial
  | error e => trivial

/-! ## The pool -/

/-- A reconcile run for the Agents of one name, or a request. The slots are how many runs of one
name the operator can have at a time. -/
inductive TaskId (Slot : Type) where
  | operator (name : String) (slot : Slot)
  | api (n : Nat)
deriving DecidableEq

section Tasks

variable {Slot : Type}

/-- Which program a task may be started with. -/
inductive Spawns (ctx : Operator.Context) : TaskId Slot → Prog Call Answer Outcome → Prop where
  | reconcile (agent : Operator.Agent) (slot : Slot) :
      Spawns ctx (.operator agent.nameAny slot) (reconcileTask ctx agent)
  | request (r : Api.Request) (start : Api.Instant) (clock : List Api.Instant) (n : Nat) :
      Spawns ctx (.api n) (requestTask r start clock)

def TaskCall (ctx : Operator.Context) : TaskId Slot → Call → Prop
  | .operator name _, c => ∃ agent : Operator.Agent, agent.nameAny = name ∧
      Operator.OperatorCall ctx agent c
  | .api _, c => ∃ name, ApiCall name c

theorem spawns_calls {ctx : Operator.Context} {i : TaskId Slot} {p : Prog Call Answer Outcome}
    (h : Spawns ctx i p) : p.AllCalls (TaskCall ctx i) := by
  cases h with
  | reconcile agent slot =>
    refine AllCalls.bind ?_ fun _ => trivial
    exact (Operator.reconcile_calls ctx agent).mono fun c hc => ⟨agent, rfl, hc⟩
  | request r start clock n =>
    exact (requestTask_calls .read (request_calls r) start clock).mono fun c hc => ⟨r.name, hc⟩

/-- What one call of a task does to the objects other than Agents: nothing, a child created under a
free name, or a pod deleted. -/
theorem taskCall_effect {S : Server} {ctx : Operator.Context} {i : TaskId Slot} {c : Call}
    {r : Answer c} {s s' : Cluster} (hc : TaskCall ctx i c) (hs : S.Faulty s c r s') :
    s'.objs = s.objs ∨
      (∃ (agent : Operator.Agent) (k : Kind), c = .create k (Operator.build ctx agent k) ∧
        s.objs k (Operator.childName agent.nameAny k) = none ∧
        s' = s.set k (Operator.childName agent.nameAny k)
          (some (S.stored (Operator.build ctx agent k)))) ∨
      ∃ (name : String) (p : Pod), s.objs .pod (Operator.podName name) = some p ∧
        s' = s.set .pod (Operator.podName name) (S.remains (k := .pod) p) := by
  have hdelete : ∀ name, ∀ {r : Answer (.delete .pod (Operator.podName name))},
      S.Faulty s (.delete .pod (Operator.podName name)) r s' → s'.objs = s.objs ∨
      ∃ (name : String) (p : Pod), s.objs .pod (Operator.podName name) = some p ∧
        s' = s.set .pod (Operator.podName name) (S.remains (k := .pod) p) := by
    intro name r hs
    rcases hs.delete with ⟨rfl, -⟩ | ⟨p, hp, rfl⟩
    · exact .inl rfl
    · exact .inr ⟨name, p, hp, rfl⟩
  cases i with
  | operator name slot =>
    obtain ⟨agent, -, hc⟩ := hc
    cases hc with
    | read k =>
      obtain ⟨rfl, -⟩ := hs.getOpt
      exact .inl rfl
    | create k =>
      rcases hs.create with ⟨rfl, -⟩ | ⟨hnone, rfl⟩
      · exact .inl rfl
      · rw [Operator.objName_build] at hnone
        exact .inr (.inl ⟨agent, k, rfl, hnone, by rw [Operator.objName_build]⟩)
    | deletePod => exact (hdelete _ hs).imp_right .inr
    | sleep secs =>
      obtain rfl := hs.sleep
      exact .inl rfl
    | report patch => exact .inl (hs.objs_of_agentCall (by intro k; simp))
  | api slot =>
    obtain ⟨name, hc⟩ := hc
    cases hc with
    | deletePod => exact (hdelete _ hs).imp_right .inr
    | _ => exact .inl (hs.objs_of_agentCall (by intro k; simp))

abbrev World (Slot : Type) := Pool (TaskId Slot) Call Answer Outcome Cluster

abbrev Label (Slot : Type) := Pool.Label (TaskId Slot) Call Answer Outcome

def World.initial (s : Cluster) : World Slot := ⟨s, fun _ => none⟩

theorem World.initial_progsIn (P : TaskId Slot → Prog Call Answer Outcome → Prop) (s : Cluster) :
    (World.initial s).ProgsIn P := by
  intro i p hp
  cases hp

theorem World.initial_tasksIn (A : TaskId Slot → Call → Prop) (s : Cluster) :
    (World.initial s).TasksIn A :=
  World.initial_progsIn (fun i p => p.AllCalls (A i)) s

end Tasks

end System
end AgentHosting
