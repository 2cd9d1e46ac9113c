import AgentHosting.Lib.Rely
import AgentHosting.Api.Responses
import AgentHosting.Operator.StatusPatch
import AgentHosting.System.Admission
import AgentHosting.System.Clients

/-!
# AgentHosting.System.Placement

The node a create request asks for, and the node the pod of the instance runs on. The `node_id` of
the request is kept in the Agent and answered with it; the pod is built without it, so nothing holds
the scheduler to it.

* `Scheduling`  — what the scheduler and the nodes do: a pod goes to any node its own spec admits.
* `OnNode`      — where all nodes have one name, it is the only one pods run on and statuses report.
* `run_reported` — whatever the request asks for, every node may be chosen, and is reported.
* `placement_honoured_iff` — the placement asked for is kept exactly where there is no other node.
-/

namespace AgentHosting
namespace System

open Kube Operator Prog

/-! ## The scheduler -/

structure Node where
  name : String
  labels : BTreeMap String := []

def nodeOf (p : Pod) : Option String := p.spec.bind (·.nodeName)

/-- What the spec of a pod demands of its node, by name and by labels. An affinity would add to it;
`build_pod` sets none. -/
structure Admits (spec : PodSpec) (node : Node) : Prop where
  name : ∀ n, spec.nodeName = some n → node.name = n
  labels : ∀ kv ∈ spec.nodeSelector.getD [], node.labels.get kv.1 = some kv.2

def bindTo (spec : PodSpec) (node : Node) : PodSpec :=
  { spec with nodeName := some node.name }

/-- The scheduler binds a pod that runs nowhere, once; the nodes report on pods and finish
deletions. -/
inductive Scheduling (nodes : Node → Prop) : Cluster → Cluster → Prop where
  | schedule {s : Cluster} {n : String} {p : Pod} {spec : PodSpec} {node : Node} :
      s.objs .pod n = some p → p.spec = some spec → spec.nodeName = none → nodes node →
      Admits spec node →
      Scheduling nodes s (s.set .pod n (some { p with spec := some (bindTo spec node) }))
  | report {s : Cluster} {n : String} {p : Pod} (status : Option PodStatus) :
      s.objs .pod n = some p →
      Scheduling nodes s (s.set .pod n (some { p with status := status }))
  | finish {s : Cluster} {n : String} {p : Pod} : s.objs .pod n = some p →
      p.metadata.deletionTimestamp.isSome → Scheduling nodes s (s.set .pod n none)

/-- The operator and the API server, with any number of runs for any Agents, any call failing before
or after its effect, over these nodes. -/
abbrev PlacingStep (nodes : Node → Prop) (ctx : Context) (graceful : Bool) (deletedAt : String) :
    World Nat → Label Nat → World Nat → Prop :=
  Pool.Step (Spawns ctx) (Server.plain graceful deletedAt).Faulty (Scheduling nodes)

theorem admits_of_free {spec : PodSpec} (hname : spec.nodeName = none)
    (hselector : spec.nodeSelector = none) (node : Node) : Admits spec node where
  name := by simp [hname]
  labels := by simp [hselector]

/-! ## What is asked -/

/-- The API server reads this Agent under the name. -/
def Reads (name : String) (s : Cluster) (agent : Api.Agent) : Prop :=
  ∃ o, s.agents name = some o ∧ Api.decodeAgent o = .ok agent

/-- The Agent of this name, where it was requested for node `n`, is reported on no other node; and
as long as it is reported at all, what the API server answers as its node is where its pod runs. -/
structure Honoured (n name : String) (s : Cluster) : Prop where
  reported : ∀ agent, Reads name s agent → agent.spec.nodeId = some n →
    ∀ h, (agent.status.getD {}).hostNode = some h → h = n
  answered : ∀ agent, Reads name s agent →
    agent.spec.nodeId = some n ∨ agent.spec.nodeId = none →
    (agent.status.getD {}).hostNode.isSome →
    ∀ p node, s.objs .pod (podName name) = some p → nodeOf p = some node →
      (Api.InstanceResponse.ofAgent agent).nodeId = some node

/-! ## The invariant -/

def hostMember (o : AgentObject) : Option Json := (o.status.getD .null).get? "host_node"

/-- Pods run on the node `n` only, and no other is stored in a status. -/
structure OnNode (n : String) (s : Cluster) : Prop where
  pods : ∀ m p node, s.objs .pod m = some p → nodeOf p = some node → node = n
  reported : ∀ m o node, s.agents m = some o → hostMember o = some (.str node) → node = n

theorem hostMember_of_reads {o : AgentObject} {agent : Api.Agent}
    (h : Api.decodeAgent o = .ok agent) {node : String}
    (hnode : (agent.status.getD {}).hostNode = some node) : hostMember o = some (.str node) := by
  obtain ⟨-, -, hstatus⟩ := Api.decodeAgent_ok.mp h
  rw [AgentStatus.api_fromStored] at hstatus
  obtain ⟨old, hold, hagent⟩ := Option.map_eq_some_iff.mp hstatus
  have hfields := AgentStatus.fromJson_obj.mp (AgentStatus.fromJson_stored hold)
  refine Json.member_of_opt_string (hfields.2.1.trans ?_)
  rw [← hagent] at hnode
  rw [← hnode]
  cases old <;> rfl

theorem hostMember_patch (o : AgentObject) (status : AgentStatus) :
    hostMember (o.patchStatus (statusPatch status)) =
      Json.mergeField (status.hostNode.map .str) (hostMember o) := by
  rw [statusPatch, AgentObject.patchStatus_object, AgentStatus.toJson, Json.record, hostMember,
    Json.mergeField_obj, Option.getD_some, Json.get?_mergePatch_obj]
  rfl

namespace OnNode

variable {n : String} {s s' : Cluster}

theorem empty : OnNode n Cluster.empty where
  pods := by simp [Cluster.empty]
  reported := by simp [Cluster.empty]

theorem setPod (h : OnNode n s) {m : String} {o : Option Pod}
    (ho : ∀ p node, o = some p → nodeOf p = some node → node = n) :
    OnNode n (s.set .pod m o) := by
  refine ⟨fun m' p node hp hnode => ?_, h.reported⟩
  by_cases hm : m' = m
  · subst hm
    rw [Cluster.set_same] at hp
    exact ho p node hp hnode
  · rw [Cluster.set_other_name s .pod hm] at hp
    exact h.pods m' p node hp hnode

theorem setOther (h : OnNode n s) {k : Kind} (hk : Kind.pod ≠ k) (m : String)
    (o : Option (Obj k)) : OnNode n (s.set k m o) := by
  refine ⟨fun m' p node hp hnode => ?_, h.reported⟩
  rw [Cluster.set_other_kind s hk] at hp
  exact h.pods m' p node hp hnode

theorem setAgent (h : OnNode n s) {m : String} {o : Option AgentObject}
    (ho : ∀ o' node, o = some o' → hostMember o' = some (.str node) → node = n) :
    OnNode n (s.setAgent m o) := by
  refine ⟨h.pods, fun m' o' node ho' hnode => ?_⟩
  by_cases hm : m' = m
  · subst hm
    rw [Cluster.setAgent_same] at ho'
    exact ho o' node ho' hnode
  · rw [Cluster.setAgent_other s hm] at ho'
    exact h.reported m' o' node ho' hnode

/-- What a delete leaves of a pod has not moved. -/
theorem remains (h : OnNode n s) {m : String} {p : Pod} (hp : s.objs .pod m = some p)
    (S : Server) : OnNode n (s.set .pod m (S.remains (k := .pod) p)) := by
  refine h.setPod fun q node hq hnode => h.pods m p node hp ?_
  simp only [Server.remains] at hq
  split at hq
  · rw [← Option.some.inj hq] at hnode
    exact hnode
  · cases hq

/-- A report either names the node or keeps what was stored. -/
theorem report (h : OnNode n s) {m : String} {o : AgentObject} (ho : s.agents m = some o)
    {status : Operator.AgentStatus} (hstatus : ∀ node, status.hostNode = some node → node = n) :
    OnNode n (s.setAgent m (some (o.patchStatus (statusPatch status)))) := by
  refine h.setAgent fun o' node ho' hnode => ?_
  obtain rfl := Option.some.inj ho'
  rw [hostMember_patch] at hnode
  cases hhost : status.hostNode with
  | none =>
    rw [hhost, Option.map_none, Json.mergeField_none] at hnode
    exact h.reported m o node ho hnode
  | some host =>
    rw [hhost, Option.map_some, Json.mergeField_str] at hnode
    cases hnode
    exact hstatus _ hhost

theorem honoured (h : OnNode n s) (name : String) : Honoured n name s := by
  have hreported : ∀ agent, Reads name s agent →
      ∀ node, (agent.status.getD {}).hostNode = some node → node = n := by
    rintro agent ⟨o, ho, hagent⟩ node hnode
    exact h.reported name o node ho (hostMember_of_reads hagent hnode)
  refine ⟨fun agent hreads _ => hreported agent hreads, ?_⟩
  intro agent hreads hasked hsome p node hp hnode
  obtain ⟨host, hhost⟩ := Option.isSome_iff_exists.mp hsome
  obtain rfl := hreported agent hreads host hhost
  obtain rfl := h.pods _ p node hp hnode
  show agent.spec.nodeId.or (agent.status.getD {}).hostNode = _
  rcases hasked with hasked | hasked
  · rw [hasked]
    rfl
  · rw [hasked, hhost]
    rfl

end OnNode

/-! ## The calls of both programs -/

/-- What every call keeps to: pods are created without a node, Agents without a status, and no other
node is reported. -/
def PlacedCall (n : String) : Call → Prop
  | .create .pod p => nodeOf p = none
  | .createAgent o => o.status = none
  | .patchAgentStatus _ patch => ∃ status : Operator.AgentStatus, patch = statusPatch status ∧
      ∀ node, status.hostNode = some node → node = n
  | _ => True

section Calls

variable {n : String} {s s' : Cluster} {graceful : Bool} {deletedAt : String}

theorem onNode_call {c : Call} {r : Answer c} (h : OnNode n s) (hc : PlacedCall n c)
    (hs : (Server.plain graceful deletedAt).Faulty s c r s') : OnNode n s' := by
  rcases hs.state with rfl | rfl
  · exact h
  cases c with
  | getOpt k m => exact h
  | getAgent m => exact h
  | sleep secs => exact h
  | create k o =>
    simp only [Server.exec]
    split
    · exact h
    · cases k with
      | pod =>
        refine h.setPod fun p node hp hnode => ?_
        obtain rfl := Option.some.inj hp
        cases hnode.symm.trans hc
      | _ => exact h.setOther (by decide) _ _
  | delete k m =>
    simp only [Server.exec]
    split
    · rename_i o ho
      cases k with
      | pod => exact h.remains ho _
      | _ => exact h.setOther (by decide) _ _
    · exact h
  | createAgent o =>
    simp only [Server.exec]
    split
    · exact h
    · refine h.setAgent fun o' node ho' hnode => ?_
      obtain rfl := Option.some.inj ho'
      have hstatus : o.status = none := hc
      have hnone : hostMember o = none := by rw [hostMember, hstatus]; rfl
      cases hnode.symm.trans hnone
  | deleteAgent m =>
    simp only [Server.exec]
    split
    · refine h.setAgent fun o' node ho' hnode => ?_
      cases ho'
    · exact h
  | patchAgent m patch =>
    simp only [Server.exec]
    split
    · rename_i o ho
      refine h.setAgent fun o' node ho' hnode => h.reported m o node ho ?_
      obtain rfl := Option.some.inj ho'
      exact hnode
    · exact h
  | patchAgentStatus m patch =>
    simp only [Server.exec]
    split
    · rename_i o ho
      obtain ⟨status, rfl, hstatus⟩ := hc
      exact h.report ho hstatus
    · exact h

theorem onNode_scheduling {nodes : Node → Prop} (hnodes : ∀ node, nodes node → node.name = n)
    (h : OnNode n s) (hs : Scheduling nodes s s') : OnNode n s' := by
  cases hs with
  | @schedule m p spec node hp hspec hfree hnode hadmits =>
    refine h.setPod fun q m' hq hm' => ?_
    obtain rfl := Option.some.inj hq
    rw [← Option.some.inj hm']
    exact hnodes node hnode
  | @report m p status hp =>
    refine h.setPod fun q node hq hnode => h.pods m p node hp ?_
    obtain rfl := Option.some.inj hq
    exact hnode
  | finish hp _ =>
    refine h.setPod fun q node hq hnode => ?_
    cases hq

theorem onNode_star (h : OnNode n s)
    (hs : Relation.ReflTransGen (fun s s' => OnNode n s → OnNode n s') s s') : OnNode n s' := by
  induction hs with
  | refl => exact h
  | tail _ hstep ih => exact hstep ih

/-- The others keep the invariant, and every call is a placed one. -/
abbrev PlacedSafe {α : Type} (n : String) (graceful : Bool) (deletedAt : String)
    (p : Prog Call Answer α) (s : Cluster) : Prop :=
  Safe (Server.plain graceful deletedAt).Faulty (fun s s' => OnNode n s → OnNode n s')
    (fun _ => PlacedCall n) p s

/-- What a run does before it reports does not depend on the invariant. -/
theorem PlacedSafe.andThen {α β : Type} {p : Prog Call Answer (Except KubeError α)}
    {f : α → Prog Call Answer (Except KubeError β)} (hp : p.AllCalls (PlacedCall n))
    (hf : ∀ a s, OnNode n s → PlacedSafe n graceful deletedAt (f a) s) (h : OnNode n s) :
    PlacedSafe n graceful deletedAt (Prog.andThen p f) s :=
  hp.safe_andThen (fun _ _ h hs => hs h) (fun _ _ _ _ h hc hs => onNode_call h hc hs)
    (fun _ _ _ hc => hc) hf h

theorem PlacedSafe.of_calls {α : Type} {p : Prog Call Answer α} (hp : p.AllCalls (PlacedCall n))
    (h : OnNode n s) : PlacedSafe n graceful deletedAt p s :=
  hp.safe (fun _ _ h hs => hs h) (fun _ _ _ _ h hc hs => onNode_call h hc hs)
    (fun _ _ _ hc => hc) h

theorem placed_report {status : Operator.AgentStatus} (name : String)
    (svc : Except KubeError (Option Service))
    (hstatus : ∀ node, status.hostNode = some node → node = n) :
    PlacedCall n (.patchAgentStatus name (statusPatch (withNodePorts status svc))) := by
  obtain ⟨ports, hports⟩ := withNodePorts_eq status svc
  exact ⟨_, rfl, by rw [hports]; exact hstatus⟩

/-- The node that is reported is the one of a pod that was read. -/
theorem updateStatus_placed (agent : Agent) (h : OnNode n s) :
    PlacedSafe n graceful deletedAt (updateStatus agent).run s := by
  rw [updateStatus_run]
  split
  · refine .of_calls ⟨trivial, fun svc => ⟨?_, fun _ => trivial⟩⟩ h
    refine placed_report _ svc fun node hnode => ?_
    cases hnode
  · intro s1 h1
    refine ⟨trivial, fun r s2 hs => ?_⟩
    have h2 := onNode_star h h1
    obtain ⟨rfl, rfl | ⟨e, rfl⟩⟩ := hs.getOpt
    · refine PlacedSafe.of_calls ⟨trivial, fun svc => ⟨?_, fun _ => trivial⟩⟩ h2
      refine placed_report _ svc fun node hnode => ?_
      cases hp : s2.objs .pod (podName agent.nameAny) with
      | none =>
        rw [hp] at hnode
        cases hnode
      | some p =>
        rw [hp] at hnode
        exact h2.pods _ p node hp hnode
    · trivial

theorem reconcile_placed (ctx : Context) (agent : Agent) (h : OnNode n s) :
    PlacedSafe n graceful deletedAt (reconcile ctx agent).run s := by
  rw [reconcile_run]
  refine .andThen (ensureExists_calls trivial trivial) (fun _ s1 h1 => ?_) h
  -- the pod is built without a node
  refine .andThen (podStep_calls trivial trivial trivial rfl) (fun _ s2 h2 => ?_) h1
  refine .andThen (ensureExists_calls trivial trivial) (fun _ s3 h3 => ?_) h2
  refine .andThen (ensureExists_calls trivial trivial) (fun _ s4 h4 => ?_) h3
  exact Safe.andThen (updateStatus_placed agent h4)
    (wp_of_forall (fun _ _ _ _ _ => trivial) _ _)

theorem request_placed (r : Api.Request) : r.handler.AllCalls (PlacedCall n) := by
  cases r with
  | create uuid req => exact createInstance_calls trivial rfl
  | start name => exact patchState_calls _ trivial trivial
  | stop name => exact patchState_calls _ trivial trivial
  | restart name => exact restartInstance_calls trivial trivial
  | delete name => exact (deleteInstance_calls trivial trivial).bind fun _ => trivial

theorem spawns_placed {ctx : Context} {i : TaskId Nat} {p : Prog Call Answer Outcome}
    (hp : Spawns ctx i p) (h : OnNode n s) : PlacedSafe n graceful deletedAt p s := by
  cases hp with
  | reconcile agent slot =>
    exact Safe.bind (reconcile_placed ctx agent h) (wp_of_forall (fun _ _ _ => trivial) _ _)
  | request r start clock slot =>
    exact .of_calls (requestTask_calls trivial (request_placed r) start clock) h

end Calls

/-! ## Runs -/

section Runs

variable {nodes : Node → Prop} {ctx : Context} {n : String} {graceful : Bool} {deletedAt : String}

theorem onNode_step (hnodes : ∀ node, nodes node → node.name = n) {w w' : World Nat}
    {l : Label Nat}
    (h : (w.ProgsIn fun _ p => PlacedSafe n graceful deletedAt p w.state) ∧ OnNode n w.state)
    (hs : PlacingStep nodes ctx graceful deletedAt w l w') :
    (w'.ProgsIn fun _ p => PlacedSafe n graceful deletedAt p w'.state) ∧ OnNode n w'.state := by
  refine ⟨Pool.safe_step (fun _ _ hp => spawns_placed hp h.2)
    (fun _ _ _ _ hc hs h => onNode_call h hc hs) (fun _ _ hs h => onNode_scheduling hnodes h hs)
    h.1 hs, ?_⟩
  cases hs with
  | spawn _ _ => exact h.2
  | call hp hserve => exact onNode_call h.2 (Pool.AllSafe.call h.1 hp) hserve
  | exit _ => exact h.2
  | env hs => exact onNode_scheduling hnodes h.2 hs

end Runs

/-! ## A run that reports any node -/

/-- The operator's view of the Agent of a request. -/
def requestedAgent (uuid : String) (req : Api.CreateInstanceRequest) : Agent where
  metadata := { name := some (Api.Request.create uuid req).name }
  spec := (Api.requestedSpec req).toOperator

/-- One task at a time, run to its end, with no call failing. -/
theorem run_task (nodes : Node → Prop) {ctx : Context} {i : TaskId Nat}
    {p : Prog Call Answer Outcome} (hp : Spawns ctx i p) (s : Cluster) :
    ∃ tr, Run (PlacingStep nodes ctx false "") (World.initial s) tr
      (World.initial (run Server.verbatim.exec p s).2) :=
  Pool.run_whole (Scheduling nodes) Server.verbatim.exec (fun _ _ => .served) rfl hp

theorem run_create {uuid : String} {req : Api.CreateInstanceRequest}
    (hvalid : ¬ (req.name.isNone ∧ req.serviceType.isNone)) :
    (run Server.verbatim.exec (requestTask (.create uuid req) 0 []) Cluster.empty).2 =
      Cluster.empty.setAgent (Api.Request.create uuid req).name
        (some (createdObject uuid req)) := by
  rw [create_task 0 [] hvalid]
  rfl

/-- What an undisturbed run leaves of the pod, and reports as its node. -/
theorem run_reconcile (ctx : Context) {agent : Agent} (hstate : agent.spec.state ≠ .stopped)
    {s : Cluster} {o : AgentObject} {old : Option Operator.AgentStatus}
    (ho : s.agents agent.nameAny = some o) (hold : AgentStatus.fromStored o.status = some old) :
    ∃ s' o' status, (run Server.verbatim.exec (reconcileTask ctx agent) s).2 = s' ∧
      s'.objs .pod (podName agent.nameAny) =
        settledPod agent (s.objs .pod (podName agent.nameAny)) ∧
      s'.agents agent.nameAny = some o' ∧ o'.spec = o.spec ∧
      AgentStatus.fromStored o'.status = some (some status) ∧
      status.hostNode = ((settledPod agent (s.objs .pod (podName agent.nameAny))).bind nodeOf).or
        (old.getD {}).hostNode := by
  have hview := (reconcile_settles ctx agent s).2
  have hrun : (run Server.verbatim.exec (reconcileTask ctx agent) s).2 =
      (run Server.verbatim.exec (reconcile ctx agent).run s).2 := by
    rw [reconcileTask, run_bind]
    rfl
  have hagent := congrArg Children.agent hview
  rw [settle, show (view s agent.nameAny).agent = some o from ho, Option.map_some] at hagent
  refine ⟨_, _, _, hrun, congrFun (congrArg Children.objs hview) .pod, hagent, rfl,
    fromStored_patchStatus hold _, ?_⟩
  show (reportOf agent _).hostNode.or _ = _
  rw [reportOf_hostNode, if_neg hstate]
  rfl

/-- The pod of the Agent, bound to a node. -/
def boundPod (agent : Agent) (node : Node) : Pod :=
  { buildPod agent with spec := (buildPod agent).spec.map (bindTo · node) }

theorem settledPod_bound {agent : Agent} (hstate : agent.spec.state ≠ .stopped) (node : Node) :
    settledPod agent (some (boundPod agent node)) = some (boundPod agent node) := by
  have hcurrent : podNeedsUpdate (boundPod agent node) agent = false :=
    podNeedsUpdate_buildPod agent
  rw [settledPod_some hstate, hcurrent]
  rfl

/-- The instance is created, the operator reconciles it, the scheduler chooses, and the operator
reconciles it again. -/
theorem run_reported (nodes : Node → Prop) (node : Node) (hnode : nodes node) (ctx : Context)
    (uuid : String) (req : Api.CreateInstanceRequest)
    (hvalid : ¬ (req.name.isNone ∧ req.serviceType.isNone)) :
    ∃ tr w agent, Run (PlacingStep nodes ctx false "") (World.initial Cluster.empty) tr w ∧
      Reads (Api.Request.create uuid req).name w.state agent ∧
      agent.spec = Api.requestedSpec req ∧
      (agent.status.getD {}).hostNode = some node.name := by
  have hstate : (requestedAgent uuid req).spec.state ≠ .stopped := by
    show Operator.AgentState.running ≠ .stopped
    decide
  have hcreated : (Cluster.empty.setAgent (Api.Request.create uuid req).name
      (some (createdObject uuid req))).agents (requestedAgent uuid req).nameAny =
        some (createdObject uuid req) :=
    Cluster.setAgent_same ..
  obtain ⟨tr1, h1⟩ := run_task nodes (.request (.create uuid req) 0 [] 0 : Spawns ctx _ _)
    Cluster.empty
  rw [run_create hvalid] at h1
  -- the pod is created, and runs nowhere yet
  obtain ⟨s2, o2, status2, hs2, hpod2, ho2, hspec2, hstatus2, -⟩ :=
    run_reconcile ctx hstate hcreated
      (rfl : AgentStatus.fromStored (createdObject uuid req).status = some none)
  obtain ⟨tr2, h2⟩ := run_task nodes (.reconcile (requestedAgent uuid req) 0 : Spawns ctx _ _)
    (Cluster.empty.setAgent _ (some (createdObject uuid req)))
  rw [hs2] at h2
  have hnew : settledPod (requestedAgent uuid req) none = _ := settledPod_none hstate
  rw [show (Cluster.empty.setAgent _ (some (createdObject uuid req))).objs .pod _ = none from rfl,
    hnew] at hpod2
  have hbind : Scheduling nodes s2 (s2.set .pod (podName (requestedAgent uuid req).nameAny)
      (some (boundPod (requestedAgent uuid req) node))) :=
    .schedule hpod2 rfl rfl hnode (admits_of_free rfl rfl node)
  have hchosen : Run (PlacingStep nodes ctx false "") (World.initial s2) _ (World.initial _) :=
    .single (.env hbind)
  -- the second run finds the pod in place, and reports its node
  obtain ⟨s4, o4, status4, hs4, -, ho4, hspec4, hstatus4, hhost4⟩ :=
    run_reconcile ctx hstate (s := s2.set .pod (podName (requestedAgent uuid req).nameAny)
      (some (boundPod (requestedAgent uuid req) node))) ho2 hstatus2
  rw [Cluster.set_same, settledPod_bound hstate] at hhost4
  obtain ⟨tr4, h4⟩ := run_task nodes (.reconcile (requestedAgent uuid req) 0 : Spawns ctx _ _)
    (s2.set .pod (podName (requestedAgent uuid req).nameAny)
      (some (boundPod (requestedAgent uuid req) node)))
  rw [hs4] at h4
  have hspec : Api.AgentSpec.fromJson o4.spec = some (Api.requestedSpec req) := by
    rw [hspec4, hspec2]
    exact Api.AgentSpec.fromJson_toJson _
  exact ⟨_, _, ⟨o4.metadata, Api.requestedSpec req, some status4.toApi⟩,
    ((h1.trans h2).trans hchosen).trans h4,
    ⟨o4, ho4, Api.decodeAgent_ok.mpr ⟨rfl, hspec, AgentStatus.api_fromStored_some hstatus4⟩⟩,
    rfl, hhost4⟩

/-! ## The placement -/

/-- For every request with a `node_id` that is accepted: in all runs the placement is honoured,
exactly where no other node is there to choose. -/
theorem placement_honoured_iff (nodes : Node → Prop) (ctx : Context) (uuid : String)
    {req : Api.CreateInstanceRequest} (hvalid : ¬ (req.name.isNone ∧ req.serviceType.isNone))
    {n : String} (hn : req.nodeId = some n) :
    (∀ graceful deletedAt tr w,
      Run (PlacingStep nodes ctx graceful deletedAt) (World.initial Cluster.empty) tr w →
        Honoured n (Api.Request.create uuid req).name w.state) ↔
      ∀ node, nodes node → node.name = n := by
  constructor
  · intro hhonoured node hnode
    obtain ⟨tr, w, agent, hrun, hreads, hspec, hhost⟩ :=
      run_reported nodes node hnode ctx uuid req hvalid
    have hasked : agent.spec.nodeId = some n := by
      rw [hspec]
      exact hn
    exact (hhonoured false "" tr w hrun).reported agent hreads hasked node.name hhost
  · intro hnodes graceful deletedAt tr w hrun
    have hinitial : ((World.initial Cluster.empty : World Nat).ProgsIn fun _ p =>
        PlacedSafe n graceful deletedAt p Cluster.empty) ∧ OnNode n Cluster.empty :=
      ⟨World.initial_progsIn _ _, .empty⟩
    exact (hrun.invariant (fun _ _ _ h hs => onNode_step hnodes h hs) hinitial).2.honoured _

/-- A request for a node, with the defaults of everything else. -/
def placedRequest : Api.CreateInstanceRequest :=
  { namedRequest "a" with nodeId := some "worker-01" }

theorem placement_honoured_alone : ∃ tr w agent,
    Run (PlacingStep (fun node => node.name = "worker-01") {} false "")
      (World.initial Cluster.empty) tr w ∧
    Reads "a" w.state agent ∧ (agent.status.getD {}).hostNode = some "worker-01" ∧
    Honoured "worker-01" "a" w.state := by
  obtain ⟨tr, w, agent, hrun, hreads, -, hhost⟩ :=
    run_reported (fun node => node.name = "worker-01") ⟨"worker-01", []⟩ rfl {} "" placedRequest
      (by decide)
  have hasked : placedRequest.nodeId = some "worker-01" := rfl
  have hhonoured := (placement_honoured_iff (fun node => node.name = "worker-01") {} ""
    (by decide) hasked).mpr fun _ hnode => hnode
  exact ⟨tr, w, agent, hrun, hreads, hhost, hhonoured false "" tr w hrun⟩

/-- With a second node, the instance asked for on the first one may run, and be reported, on it. -/
theorem placement_ignored : ∃ tr w agent,
    Run (PlacingStep (fun node => node.name = "worker-01" ∨ node.name = "worker-02") {} false "")
      (World.initial Cluster.empty) tr w ∧
    Reads "a" w.state agent ∧ agent.spec = Api.requestedSpec placedRequest ∧
    (agent.status.getD {}).hostNode = some "worker-02" ∧ ¬ Honoured "worker-01" "a" w.state := by
  obtain ⟨tr, w, agent, hrun, hreads, hspec, hhost⟩ :=
    run_reported (fun node => node.name = "worker-01" ∨ node.name = "worker-02")
      ⟨"worker-02", []⟩ (.inr rfl) {} "" placedRequest (by decide)
  refine ⟨tr, w, agent, hrun, hreads, hspec, hhost, fun hhonoured => ?_⟩
  have hsame := hhonoured.reported agent hreads (by rw [hspec]; rfl) _ hhost
  exact absurd hsame (by decide)

end System
end AgentHosting
