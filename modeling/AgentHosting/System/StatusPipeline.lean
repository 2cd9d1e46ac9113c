import AgentHosting.Api.Sse
import AgentHosting.Operator.StatusPatch

/-!
# AgentHosting.System.StatusPipeline

From a pod to the status string of the API: the operator translates the pod into a status, sends it
as JSON, and the API server translates what it reads back into a word of its own.

* `Reported`         — what the word has to say about the desired state and the pod.
* `updateStatus_sends` — what `update_status` sends, and what it has read before.
* `status_pipeline`  — whatever it sends is reported so, directly and once it is stored.
-/

namespace AgentHosting
namespace System

open Kube Operator Prog

/-! ## Pods -/

/-- A container waits in a crash loop. -/
def CrashLooping (pod : Pod) : Prop :=
  ∃ status statuses cs state waiting, pod.status = some status ∧
    status.containerStatuses = some statuses ∧ cs ∈ statuses ∧ cs.state = some state ∧
    state.waiting = some waiting ∧ waiting.reason = some "CrashLoopBackOff"

def podPhase (pod : Pod) : Option String := pod.status.bind (·.phase)

/-- The phases of Kubernetes, and none. -/
def KnownPhase (phase : Option String) : Prop :=
  phase ∈ [none, some "Pending", some "Running", some "Succeeded", some "Failed", some "Unknown"]

def crashFlag (pod : Pod) : Bool :=
  ((pod.status.bind (·.containerStatuses)).map fun cs => cs.any waitingCrashLoop).getD false

theorem waitingCrashLoop_iff (cs : ContainerStatus) :
    waitingCrashLoop cs = true ↔ ∃ state waiting, cs.state = some state ∧
      state.waiting = some waiting ∧ waiting.reason = some "CrashLoopBackOff" := by
  obtain ⟨name, restartCount, _ | ⟨_ | ⟨_ | reason⟩⟩⟩ := cs <;> simp [waitingCrashLoop]

theorem crashFlag_iff (pod : Pod) : crashFlag pod = true ↔ CrashLooping pod := by
  unfold crashFlag CrashLooping
  cases hstatus : pod.status with
  | none => simp
  | some status =>
    cases hstatuses : status.containerStatuses with
    | none => simp [hstatuses]
    | some statuses => simp [hstatuses, waitingCrashLoop_iff]

theorem deriveStatusFromPod_phase (pod : Pod) : (deriveStatusFromPod pod).phase =
    some (if crashFlag pod then "CrashLoopBackOff" else phaseOf (podPhase pod)) := rfl

/-! ## The word -/

/-- The Agent is meant to be stopped, or its pod has come to a good end. -/
def Ended (state : Operator.AgentState) (pod : Pod) : Prop :=
  state = .stopped ∨ ¬ CrashLooping pod ∧ podPhase pod = some "Succeeded"

def Broken (pod : Pod) : Prop := CrashLooping pod ∨ podPhase pod = some "Failed"

/-- What the status word of the API says about the desired state and the pod. -/
structure Reported (state : Operator.AgentState) (pod : Pod) (word : String) : Prop where
  stopped : word = "stopped" ↔ Ended state pod
  error : ¬ Ended state pod → (word = "error" ↔ Broken pod)
  running : ¬ Ended state pod → ¬ Broken pod →
    (word = "running" ↔ podPhase pod = some "Running")
  crashing : CrashLooping pod → word ≠ "running"

theorem derive_stopped {spec : Api.AgentSpec} (h : spec.state = .stopped)
    (status : Api.AgentStatus) : Api.deriveStatusFromSpecAndStatus spec status = "stopped" := by
  rw [Api.deriveStatusFromSpecAndStatus, if_pos h]

/-- The word for the phase of a pod whose containers are all right. -/
def phaseWord : Option String → String
  | some "Succeeded" => "stopped"
  | some "Failed" => "error"
  | some "Running" => "running"
  | some "Pending" => "creating"
  | _ => "unknown"

theorem toLowercase_unknown : Api.toLowercase "Unknown" = "unknown" := by
  rw [Api.toLowercase, ← String.toList_inj, String.toList_map]
  decide

theorem derive_of_phase {spec : Api.AgentSpec} (hstate : spec.state ≠ .stopped)
    {status : Api.AgentStatus} {phase : Option String}
    (hstatus : status.phase = some (phaseOf phase)) (hphase : KnownPhase phase) :
    Api.deriveStatusFromSpecAndStatus spec status = phaseWord phase := by
  rw [Api.deriveStatusFromSpecAndStatus, if_neg hstate, hstatus]
  simp only [KnownPhase, List.mem_cons, List.not_mem_nil, or_false] at hphase
  rcases hphase with rfl | rfl | rfl | rfl | rfl | rfl
  · exact toLowercase_unknown
  · rfl
  · rfl
  · rfl
  · rfl
  · exact toLowercase_unknown

theorem phaseWord_iff {phase : Option String} (hphase : KnownPhase phase) :
    (phaseWord phase = "stopped" ↔ phase = some "Succeeded") ∧
      (phaseWord phase = "error" ↔ phase = some "Failed") ∧
      (phaseWord phase = "running" ↔ phase = some "Running") := by
  simp only [KnownPhase, List.mem_cons, List.not_mem_nil, or_false] at hphase
  rcases hphase with rfl | rfl | rfl | rfl | rfl | rfl <;> decide

theorem derive_of_crash {spec : Api.AgentSpec} (hstate : spec.state ≠ .stopped)
    {status : Api.AgentStatus} (hstatus : status.phase = some "CrashLoopBackOff") :
    Api.deriveStatusFromSpecAndStatus spec status = "error" := by
  rw [Api.deriveStatusFromSpecAndStatus, if_neg hstate, hstatus]
  rfl

theorem reported_of_stopped (pod : Pod) : Reported .stopped pod "stopped" where
  stopped := ⟨fun _ => .inl rfl, fun _ => rfl⟩
  error := fun h => (h (.inl rfl)).elim
  running := fun h => (h (.inl rfl)).elim
  crashing := fun _ => by decide

theorem reported_of_crash {state : Operator.AgentState} {pod : Pod} (hstate : state ≠ .stopped)
    (h : CrashLooping pod) : Reported state pod "error" := by
  have hended : ¬ Ended state pod := by
    rintro (hstopped | ⟨hno, -⟩)
    · exact hstate hstopped
    · exact hno h
  refine ⟨⟨fun heq => absurd heq (by decide), fun he => (hended he).elim⟩,
    fun _ => ⟨fun _ => .inl h, fun _ => rfl⟩, fun _ hbroken => (hbroken (.inl h)).elim,
    fun _ => by decide⟩

theorem reported_of_phase {state : Operator.AgentState} {pod : Pod} (hstate : state ≠ .stopped)
    (h : ¬ CrashLooping pod) (hphase : KnownPhase (podPhase pod)) :
    Reported state pod (phaseWord (podPhase pod)) := by
  obtain ⟨hstopped, herror, hrunning⟩ := phaseWord_iff hphase
  have hended : Ended state pod ↔ podPhase pod = some "Succeeded" := by
    simp [Ended, hstate, h]
  have hbroken : Broken pod ↔ podPhase pod = some "Failed" := by
    simp [Broken, h]
  exact ⟨hstopped.trans hended.symm, fun _ => herror.trans hbroken.symm, fun _ _ => hrunning,
    fun hcrash => (h hcrash).elim⟩

/-- What the API derives from a spec and a status with the phase the operator computed. -/
theorem reported_of_base {agent : Agent} {pod : Pod} {status : Api.AgentStatus}
    (hphase : KnownPhase (podPhase pod))
    (hstatus : status.phase = (baseStatus agent (some pod)).phase) :
    Reported agent.spec.state pod
      (Api.deriveStatusFromSpecAndStatus agent.spec.toApi status) := by
  have hapi : agent.spec.toApi.state = .stopped ↔ agent.spec.state = .stopped := by
    show agent.spec.state.toApi = .stopped ↔ _
    cases agent.spec.state <;> decide
  by_cases hstate : agent.spec.state = .stopped
  · rw [derive_stopped (hapi.mpr hstate), hstate]
    exact reported_of_stopped pod
  · have hspec : agent.spec.toApi.state ≠ .stopped := fun h => hstate (hapi.mp h)
    rw [baseStatus, if_neg hstate, podStatus, deriveStatusFromPod_phase] at hstatus
    by_cases hcrash : CrashLooping pod
    · rw [if_pos ((crashFlag_iff pod).mpr hcrash)] at hstatus
      rw [derive_of_crash hspec hstatus]
      exact reported_of_crash hstate hcrash
    · rw [if_neg fun h => hcrash ((crashFlag_iff pod).mp h)] at hstatus
      rw [derive_of_phase hspec hstatus hphase]
      exact reported_of_phase hstate hcrash hphase

/-! ## The run -/

/-- What `update_status` sends: the status of what it read, the pod unless the Agent is meant to be
stopped, and the Service. -/
theorem updateStatus_sends {serves : Cluster → (c : Call) → Answer c → Cluster → Prop}
    {env : Cluster → Cluster → Prop} {agent : Agent} {s s' : Cluster}
    {tr : List (Event Cluster Call Answer)} {r : Except KubeError Unit}
    (h : Exec serves env (updateStatus agent).run s tr r s') {name : String} {patch : Json}
    (hpatch : ∃ e ∈ tr, e.call = .patchAgentStatus name patch) :
    ∃ pod svc, patch = statusPatch (withNodePorts (baseStatus agent pod) svc) ∧
      (agent.spec.state = .stopped ∨
        ∃ s1 s2, ⟨s1, .getOpt .pod (podName agent.nameAny), .ok pod, s2⟩ ∈ tr) := by
  have hwp : wp serves env (fun tr _ _ => ∀ name patch,
      (∃ e ∈ tr, e.call = .patchAgentStatus name patch) →
      ∃ pod svc, patch = statusPatch (withNodePorts (baseStatus agent pod) svc) ∧
        (agent.spec.state = .stopped ∨
          ∃ s1 s2, ⟨s1, .getOpt .pod (podName agent.nameAny), .ok pod, s2⟩ ∈ tr))
      (updateStatus agent).run s := by
    rw [updateStatus_run]
    by_cases hstate : agent.spec.state = .stopped
    · rw [if_pos hstate]
      rintro s1 - svc s2 - s3 - r s4 - s5 - name patch ⟨e, he, hcall⟩
      rcases List.mem_cons.mp he with rfl | he
      · cases hcall
      · obtain rfl := List.mem_singleton.mp he
        refine ⟨none, svc, ?_, .inl hstate⟩
        rw [baseStatus, if_pos hstate]
        exact (Call.patchAgentStatus.inj hcall).2.symm
    · rw [if_neg hstate]
      rintro s1 - read s2 -
      rcases read with err | pod
      · rintro s3 - name patch ⟨e, he, hcall⟩
        obtain rfl := List.mem_singleton.mp he
        cases hcall
      · rintro s3 - svc s4 - s5 - r s6 - s7 - name patch ⟨e, he, hcall⟩
        refine ⟨pod, svc, ?_, .inr ⟨s1, s2, List.mem_cons_self⟩⟩
        rcases List.mem_cons.mp he with rfl | he
        · cases hcall
        rcases List.mem_cons.mp he with rfl | he
        · cases hcall
        obtain rfl := List.mem_singleton.mp he
        rw [baseStatus, if_neg hstate]
        exact (Call.patchAgentStatus.inj hcall).2.symm
  exact exec_wp h hwp name patch hpatch

theorem fromStored_toJson (status : AgentStatus) :
    AgentStatus.fromStored (some status.toJson) = some (some status) := by
  show (AgentStatus.fromJson status.toJson).map some = _
  rw [AgentStatus.fromJson_toJson]
  rfl

/-- Every read of a pod in the run was answered with this one. -/
def PodRead (tr : List (Event Cluster Call Answer)) (pod : Pod) : Prop :=
  ∀ s n r s', (⟨s, .getOpt .pod n, r, s'⟩ : Event Cluster Call Answer) ∈ tr → r = .ok (some pod)

/-- Whatever the state and the pod: the API reports them so from the status that is sent, and from
what is stored when it is patched into whatever status was stored before. -/
theorem status_pipeline {serves : Cluster → (c : Call) → Answer c → Cluster → Prop}
    {env : Cluster → Cluster → Prop} {agent : Agent} {s s' : Cluster}
    {tr : List (Event Cluster Call Answer)} {r : Except KubeError Unit}
    (hexec : Exec serves env (updateStatus agent).run s tr r s') {name : String} {patch : Json}
    (hpatch : ∃ e ∈ tr, e.call = .patchAgentStatus name patch) {pod : Pod} (hpod : PodRead tr pod)
    (hphase : KnownPhase (podPhase pod)) :
    ∃ spec, Api.AgentSpec.fromJson agent.spec.toJson = some spec ∧
      (∃ status, Api.AgentStatus.fromStored (patch.get? "status") = some (some status) ∧
        Reported agent.spec.state pod (Api.deriveStatusFromSpecAndStatus spec status)) ∧
      ∀ (o : AgentObject) (old : Option AgentStatus), AgentStatus.fromStored o.status = some old →
        ∃ status, Api.AgentStatus.fromStored (o.patchStatus patch).status = some (some status) ∧
          Reported agent.spec.state pod (Api.deriveStatusFromSpecAndStatus spec status) := by
  obtain ⟨read, svc, rfl, hread⟩ := updateStatus_sends hexec hpatch
  have hbase : (baseStatus agent read).phase = (baseStatus agent (some pod)).phase := by
    rcases hread with hstopped | ⟨s1, s2, hmem⟩
    · rw [baseStatus, if_pos hstopped, baseStatus, if_pos hstopped]
    · cases hpod _ _ _ _ hmem
      rfl
  obtain ⟨ports, hsent⟩ := withNodePorts_eq (baseStatus agent read) svc
  have hspec : Api.AgentSpec.fromJson agent.spec.toJson = some agent.spec.toApi :=
    (AgentSpec.api_fromJson_obj _ agent.spec).mpr (AgentSpec.fromJson_toJson agent.spec)
  rw [hsent]
  refine ⟨_, hspec, ⟨_, AgentStatus.api_fromStored_some (fromStored_toJson _), ?_⟩,
    fun o old hold => ?_⟩
  · exact reported_of_base hphase hbase
  · have hstored := fromStored_patchStatus hold { baseStatus agent read with nodePorts := ports }
    exact ⟨_, AgentStatus.api_fromStored_some hstored, reported_of_base hphase hbase⟩

/-- A pod with a container that is all right and one in a crash loop. -/
def crashingPod : Pod where
  metadata := {}
  status := some {
    phase := some "Running"
    containerStatuses := some [⟨"agent", 0, none⟩,
      ⟨"helper", 7, some { waiting := some { reason := some "CrashLoopBackOff" } }⟩] }

/-- The calls that report it. -/
def crashingTrace : List (Event Cluster Call Answer) :=
  trace Server.verbatim.exec (updateStatus (Agent.sample "a" "uid-1" .running)).run
    (Cluster.empty.set .pod "agent-a" (some crashingPod))

theorem status_pipeline_crashing : ∃ patch status,
    (∃ e ∈ crashingTrace, e.call = .patchAgentStatus "a" patch) ∧
      Api.AgentStatus.fromStored (patch.get? "status") = some (some status) ∧
      ∃ spec, Api.deriveStatusFromSpecAndStatus spec status = "error" := by
  have hexec : Exec (Answers Server.verbatim.exec) Alone
      (updateStatus (Agent.sample "a" "uid-1" .running)).run
      (Cluster.empty.set .pod "agent-a" (some crashingPod)) crashingTrace _ _ :=
    run_exec ..
  have hpatch : ∃ e ∈ crashingTrace,
      e.call = .patchAgentStatus "a" (statusPatch (deriveStatusFromPod crashingPod)) :=
    ⟨_, List.mem_cons_of_mem _ (List.mem_cons_of_mem _ List.mem_cons_self), rfl⟩
  have hpod : PodRead crashingTrace crashingPod := by
    intro s n r s' hmem
    rcases List.mem_cons.mp hmem with h | hmem
    · cases h
      rfl
    rcases List.mem_cons.mp hmem with h | hmem
    · cases h
    rcases List.mem_cons.mp hmem with h | hmem
    · cases h
    · cases hmem
  have hcrash : CrashLooping crashingPod :=
    ⟨_, _, _, _, _, rfl, rfl, List.mem_cons_of_mem _ (List.mem_singleton.mpr rfl), rfl, rfl, rfl⟩
  have hended : ¬ Ended .running crashingPod := by
    rintro (hstopped | ⟨hno, -⟩)
    · cases hstopped
    · exact hno hcrash
  obtain ⟨spec, -, ⟨status, hstatus, hreported⟩, -⟩ :=
    status_pipeline hexec hpatch hpod (by simp [KnownPhase, podPhase, crashingPod])
  exact ⟨_, status, hpatch, hstatus, spec, (hreported.error hended).mpr (.inl hcrash)⟩

end System
end AgentHosting
