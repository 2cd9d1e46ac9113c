import AgentHosting.Operator.Settle
import AgentHosting.Operator.Format

/-!
# AgentHosting.Operator.StatusPatch

The status the operator computes, against the status that is stored after its merge patch. A field
that the encoding leaves out keeps its old value.

* `AgentStatus.over`      — the stored status as a function of the new and the old one.
* `fromStored_patch`      — patching and decoding computes it.
* `updateStatus_stores`   — the stored status is the computed one exactly when there was nothing to
  clear, for the decoders of both crates.
-/

namespace AgentHosting
namespace Operator

open Kube Prog Json

/-! ## Decoding a status -/

theorem AgentStatus.fromJson_stored {v : Option Json} {old : Option AgentStatus}
    (h : AgentStatus.fromStored v = some old) :
    AgentStatus.fromJson (.obj fun k => (v.getD .null).get? k) = some (old.getD {}) := by
  cases v with
  | none =>
    obtain rfl : none = old := Option.some.inj h
    rfl
  | some v =>
    cases v with
    | null =>
      obtain rfl : none = old := Option.some.inj h
      rfl
    | obj f =>
      obtain ⟨s, hs, rfl⟩ := Option.map_eq_some_iff.mp h
      exact hs
    | _ => cases h

/-! ## The patched status -/

/-- The new status over the old one: `phase` and `restart_count` are always written, every other
field only when it has a value. -/
def AgentStatus.over (new old : AgentStatus) : AgentStatus where
  phase := new.phase
  hostNode := new.hostNode.or old.hostNode
  podIp := new.podIp.or old.podIp
  sshPort := new.sshPort.or old.sshPort
  restartCount := new.restartCount
  lastBackup := new.lastBackup.or old.lastBackup
  message := new.message.or old.message
  nodePorts := if new.nodePorts = [] then old.nodePorts else new.nodePorts

/-- What is stored after a patch decodes, to the new status over the old one. -/
theorem fromStored_patch {v : Option Json} {old : Option AgentStatus}
    (h : AgentStatus.fromStored v = some old) (new : AgentStatus) :
    AgentStatus.fromStored (mergeField (some new.toJson) v) =
      some (some (new.over (old.getD {}))) := by
  have hstr : ∀ (x : String) (w : Option Json), mergeField (some (.str x)) w = some (.str x) :=
    mergeField_str
  have hint : ∀ (x : Int32) (w : Option Json), mergeField (some (ofI32 x)) w = some (ofI32 x) :=
    fun x w => mergeField_num _ w
  obtain ⟨-, h2, h3, h4, -, h6, h7, h8⟩ :=
    AgentStatus.fromJson_obj.mp (AgentStatus.fromJson_stored h)
  rw [AgentStatus.toJson, record, mergeField_obj, mergePatch_obj_eq]
  refine congrArg (Option.map some) (AgentStatus.fromJson_obj.mpr ?_)
  refine ⟨?_, ?_, ?_, ?_, ?_, ?_, ?_, ?_⟩
  · exact field_merge_ofOption hstr opt_string?_str rfl
  · exact field_merge_skip hstr opt_string?_str (Option.join_some ..) h2
  · exact field_merge_skip hstr opt_string?_str (Option.join_some ..) h3
  · exact field_merge_skip hint opt_i32?_ofI32 (Option.join_some ..) h4
  · exact field_merge_ofOption hint opt_i32?_ofI32 rfl
  · exact field_merge_skip hstr opt_string?_str (Option.join_some ..) h6
  · exact field_merge_skip hstr opt_string?_str (Option.join_some ..) h7
  · exact field_merge_skipEmpty NodePort.fromJson_toJson (Option.join_some ..) h8

theorem fromStored_patchStatus {o : AgentObject} {old : Option AgentStatus}
    (h : AgentStatus.fromStored o.status = some old) (new : AgentStatus) :
    AgentStatus.fromStored (o.patchStatus (statusPatch new)).status =
      some (some (new.over (old.getD {}))) := by
  rw [statusPatch, AgentObject.patchStatus_object]
  exact fromStored_patch h new

/-! ## Stored against computed -/

def AgentStatus.Reports (d new : AgentStatus) : Prop :=
  d.phase = new.phase ∧ d.hostNode = new.hostNode ∧ d.podIp = new.podIp ∧
    d.restartCount = new.restartCount ∧ d.nodePorts = new.nodePorts

def AgentStatus.ApiReports (d : Api.AgentStatus) (new : AgentStatus) : Prop :=
  d.phase = new.phase ∧ d.hostNode = new.hostNode ∧ d.podIp = new.podIp ∧
    d.restartCount = new.restartCount ∧ d.nodePorts = new.nodePorts.map NodePort.toApi

theorem AgentStatus.apiReports_toApi {d new : AgentStatus} :
    AgentStatus.ApiReports d.toApi new ↔ d.Reports new := by
  have hports : d.nodePorts.map NodePort.toApi = new.nodePorts.map NodePort.toApi ↔
      d.nodePorts = new.nodePorts :=
    List.map_inj_right fun _ _ h => NodePort.toApi_injective h
  simp only [ApiReports, Reports, toApi, hports]

theorem over_reports {new old : AgentStatus} :
    (new.over old).Reports new ↔ (new.hostNode = none → old.hostNode = none) ∧
      (new.podIp = none → old.podIp = none) ∧ (new.nodePorts = [] → old.nodePorts = []) := by
  have hor : ∀ a b : Option String, a.or b = a ↔ (a = none → b = none) := by
    intro a b
    cases a <;> simp
  have hports : (if new.nodePorts = [] then old.nodePorts else new.nodePorts) = new.nodePorts ↔
      (new.nodePorts = [] → old.nodePorts = []) := by
    by_cases h : new.nodePorts = []
    · simp [h]
    · simp [h]
  simp only [AgentStatus.Reports, AgentStatus.over, hor, hports, true_and]

def servicePorts (svc : Option Service) : List ServicePort :=
  ((svc.bind (·.spec)).bind (·.ports)).getD []

/-- A status without node ports gets those of the Service. -/
theorem withNodePorts_assigned {status : AgentStatus} (h : status.nodePorts = [])
    (svc : Option Service) :
    (withNodePorts status (.ok svc)).nodePorts = assignedNodePorts (servicePorts svc) := by
  simp only [withNodePorts, servicePorts]
  cases svc with
  | none => exact h
  | some svc =>
    simp only [Option.bind_some]
    cases svc.spec.bind (·.ports) with
    | none => exact h
    | some ports => rfl

/-- The old status has no value for what the pod and the Service give no value for. -/
structure NothingToClear (agent : Agent) (pod : Option Pod) (svc : Option Service)
    (old : AgentStatus) : Prop where
  hostNode : agent.spec.state = .stopped ∨ pod.bind (·.spec.bind (·.nodeName)) = none →
    old.hostNode = none
  podIp : agent.spec.state = .stopped ∨ pod.bind (·.status.bind (·.podIp)) = none →
    old.podIp = none
  nodePorts : (∀ sp ∈ servicePorts svc, sp.nodePort = none) → old.nodePorts = []

section Report

variable (agent : Agent) (objs : (k : Kind) → Option (Obj k))

theorem reportOf_hostNode : (reportOf agent objs).hostNode =
    if agent.spec.state = .stopped then none
    else (objs .pod).bind fun p : Pod => p.spec.bind (·.nodeName) := by
  obtain ⟨ports, h⟩ := withNodePorts_eq (baseStatus agent (objs .pod)) (.ok (objs .service))
  rw [reportOf, h, baseStatus]
  split
  · rfl
  · cases objs .pod <;> rfl

theorem reportOf_podIp : (reportOf agent objs).podIp =
    if agent.spec.state = .stopped then none
    else (objs .pod).bind fun p : Pod => p.status.bind (·.podIp) := by
  obtain ⟨ports, h⟩ := withNodePorts_eq (baseStatus agent (objs .pod)) (.ok (objs .service))
  rw [reportOf, h, baseStatus]
  split
  · rfl
  · cases objs .pod <;> rfl

theorem assignedNodePorts_eq_nil {ports : List ServicePort} :
    assignedNodePorts ports = [] ↔ ∀ sp ∈ ports, sp.nodePort = none := by
  simp [assignedNodePorts, List.filterMap_eq_nil_iff]

theorem reportOf_nodePorts :
    (reportOf agent objs).nodePorts = assignedNodePorts (servicePorts (objs .service)) :=
  withNodePorts_assigned (baseStatus_nodePorts agent (objs .pod)) (objs .service)

theorem nothingToClear_iff {old : AgentStatus} :
    NothingToClear agent (objs .pod) (objs .service) old ↔
      ((reportOf agent objs).hostNode = none → old.hostNode = none) ∧
      ((reportOf agent objs).podIp = none → old.podIp = none) ∧
      ((reportOf agent objs).nodePorts = [] → old.nodePorts = []) := by
  rw [reportOf_hostNode, reportOf_podIp, reportOf_nodePorts, assignedNodePorts_eq_nil]
  have hite : ∀ v : Option String, (if agent.spec.state = .stopped then none else v) = none ↔
      agent.spec.state = .stopped ∨ v = none := by
    intro v
    split <;> simp [*]
  rw [hite, hite]
  exact ⟨fun h => ⟨h.hostNode, h.podIp, h.nodePorts⟩, fun h => ⟨h.1, h.2.1, h.2.2⟩⟩

end Report

/-- What a report leaves stored, read by either crate, is what was computed exactly when there was
nothing to clear. -/
theorem updateStatus_stores (S : Server) (agent : Agent) (s : Cluster) {o : AgentObject}
    {old : Option AgentStatus} (ho : s.agents agent.nameAny = some o)
    (hold : AgentStatus.fromStored o.status = some old) :
    let new := reportOf agent (view s agent.nameAny).objs
    let clear := NothingToClear agent ((view s agent.nameAny).objs .pod)
      ((view s agent.nameAny).objs .service) (old.getD {})
    ∃ o' d d', run S.exec (updateStatus agent).run s =
        (.ok (), s.setAgent agent.nameAny (some o')) ∧
      AgentStatus.fromStored o'.status = some (some d) ∧
      Api.AgentStatus.fromStored o'.status = some (some d') ∧
      (d.Reports new ↔ clear) ∧ (AgentStatus.ApiReports d' new ↔ clear) := by
  intro new clear
  have hrun := run_updateStatus agent S s
  rw [ho] at hrun
  have hdecoded := fromStored_patchStatus hold new
  have hreports : (new.over (old.getD {})).Reports new ↔ clear :=
    over_reports.trans (nothingToClear_iff agent _).symm
  have hapi := AgentStatus.api_fromStored (o.patchStatus (statusPatch new)).status
  rw [hdecoded] at hapi
  exact ⟨_, _, _, hrun, hdecoded, hapi, hreports, AgentStatus.apiReports_toApi.trans hreports⟩

def AgentStatus.sampleRunning : AgentStatus where
  phase := some "Running"
  hostNode := some "worker-01"
  podIp := some "10.42.0.15"
  restartCount := some 0

def sampleStopped : Cluster :=
  let agent := Agent.sample "a" "uid-1" .stopped
  Cluster.empty.setAgent "a"
    (some ⟨agent.metadata, agent.spec.toJson, some AgentStatus.sampleRunning.toJson⟩)

theorem updateStatus_stores_stopped :
    let agent := Agent.sample "a" "uid-1" .stopped
    let new := reportOf agent (view sampleStopped "a").objs
    let clear := NothingToClear agent none none AgentStatus.sampleRunning
    ∃ o' d d', run Server.verbatim.exec (updateStatus agent).run sampleStopped =
        (.ok (), sampleStopped.setAgent "a" (some o')) ∧
      AgentStatus.fromStored o'.status = some (some d) ∧
      Api.AgentStatus.fromStored o'.status = some (some d') ∧
      (d.Reports new ↔ clear) ∧ (AgentStatus.ApiReports d' new ↔ clear) := by
  have hold : AgentStatus.fromStored (some AgentStatus.sampleRunning.toJson) =
      some (some AgentStatus.sampleRunning) := rfl
  exact updateStatus_stores Server.verbatim (Agent.sample "a" "uid-1" .stopped) sampleStopped
    (o := ⟨_, _, _⟩) rfl hold

/-- After a stop the API still reads the address and the node of the pod that is gone. -/
theorem updateStatus_keeps_podIp :
    ∃ o' d, run Server.verbatim.exec (updateStatus (Agent.sample "a" "uid-1" .stopped)).run
        sampleStopped = (.ok (), sampleStopped.setAgent "a" (some o')) ∧
      Api.AgentStatus.fromStored o'.status = some (some d) ∧
      d.phase = some "Stopped" ∧ d.podIp = some "10.42.0.15" ∧ d.hostNode = some "worker-01" ∧
      ¬ AgentStatus.ApiReports d (reportOf (Agent.sample "a" "uid-1" .stopped)
        (view sampleStopped "a").objs) := by
  refine ⟨_, _, rfl, rfl, rfl, rfl, rfl, ?_⟩
  rintro ⟨-, -, hip, -⟩
  cases hip

end Operator
end AgentHosting
