import AgentHosting.Operator.Resources

/-!
# AgentHosting.Operator.Builders

The four builders against one another. They are written apart and meet only in the cluster: by
labels, by the name of a claim, by the names of volumes and by port numbers.

* `agentSelector_matches` — selectors tell Agents apart by name.
* `tcpProbe_target`       — a probe goes to a port of the Agent.
* `builders_fit`          — the objects of two Agents fit exactly when they are those of one name.
-/

namespace AgentHosting

namespace Kube

/-! ## What the cluster reads off the objects -/

/-- Whether a Service sends traffic to pods with these labels; without a selector it does not. -/
def Service.selects (svc : Service) (labels : BTreeMap String) : Bool :=
  match svc.spec.bind (·.selector) with
  | some selector => LabelSelector.matches ⟨some selector⟩ labels
  | none => false

/-- Whether a policy applies to pods with these labels. -/
def NetworkPolicy.appliesTo (np : NetworkPolicy) (labels : BTreeMap String) : Bool :=
  match np.spec with
  | some spec => spec.podSelector.matches labels
  | none => false

/-- The ports of the pods that a Service sends traffic to, by default its own. -/
def Service.targetPorts (svc : Service) : List IntOrString :=
  ((svc.spec.bind (·.ports)).getD []).map fun p => p.targetPort.getD (.int p.port)

def Pod.containers (pod : Pod) : List Container := (pod.spec.map (·.containers)).getD []

def Pod.volumes (pod : Pod) : List Volume := (pod.spec.bind (·.volumes)).getD []

/-- The names of the claims a pod mounts. -/
def Pod.claims (pod : Pod) : List String :=
  pod.volumes.filterMap fun v => v.persistentVolumeClaim.map (·.claimName)

def Pod.containerPorts (pod : Pod) : List Int32 :=
  pod.containers.flatMap fun c => (c.ports.getD []).map (·.containerPort)

/-- The ingress rule number `i` of a policy. -/
def NetworkPolicy.ingressRule (np : NetworkPolicy) (i : Nat) : Option NetworkPolicyIngressRule :=
  ((np.spec.bind (·.ingress)).getD [])[i]?

/-- The probe asks this port. -/
def Probe.targets (probe : Probe) (port : Int32) : Prop :=
  probe.tcpSocket = some { port := .int port }

end Kube

namespace Operator

open Kube

theorem agentSelector_matches (a b : String) :
    LabelSelector.matches ⟨some (BTreeMap.insert [] "agents.near.ai/name" a)⟩ (agentLabels b) =
      true ↔ a = b := by
  have hlabel : BTreeMap.get (agentLabels b) "agents.near.ai/name" = some b := rfl
  show ((BTreeMap.get (agentLabels b) "agents.near.ai/name" == some a) && true) = true ↔ _
  rw [hlabel, Bool.and_true, beq_iff_eq, Option.some.injEq, eq_comm]

theorem tcpProbe_isSome (spec : AgentSpec) (period : Int32) :
    (tcpProbe spec period).isSome ↔ spec.command = [] ∧ spec.ports ≠ [] := by
  unfold tcpProbe
  cases spec.command with
  | nil => cases spec.ports <;> simp
  | cons c cs => simp

theorem tcpProbe_target {spec : AgentSpec} {period : Int32} {probe : Probe}
    (h : tcpProbe spec period = some probe) : ∃ p ∈ spec.ports, probe.targets p.port := by
  unfold tcpProbe at h
  split at h
  · obtain ⟨p, hp, rfl⟩ := Option.map_eq_some_iff.mp h
    exact ⟨p, List.mem_of_mem_head? hp, rfl⟩
  · cases h

/-- How the objects built for an Agent `a` go together with those built for an Agent `b`. -/
structure Fit (storageClass : Option String) (a b : Agent) : Prop where
  service : (buildService a).selects ((buildPod b).metadata.labels.getD []) ↔ a.nameAny = b.nameAny
  policy : (buildNetworkPolicy a).appliesTo ((buildPod b).metadata.labels.getD []) ↔
    a.nameAny = b.nameAny
  claim : ∃ claim, (buildPod a).claims = [claim] ∧
    ((buildPvc storageClass b).metadata.name = some claim ↔ a.nameAny = b.nameAny)
  mounts : ∀ c ∈ (buildPod a).containers, ∀ m ∈ c.volumeMounts.getD [],
    ∃ v ∈ (buildPod a).volumes, v.name = m.name
  targetPorts : (buildService a).targetPorts = (buildPod a).containerPorts.map .int
  openPorts : ∃ rule ports, (buildNetworkPolicy a).ingressRule 1 = some rule ∧
    rule.ports = some ports ∧
      ports.map (·.port) = (buildPod a).containerPorts.map fun z => some (.int z)
  probes : ∀ c ∈ (buildPod a).containers, ∀ probe ∈ [c.livenessProbe, c.readinessProbe],
    (probe.isSome ↔ a.spec.command = [] ∧ a.spec.ports ≠ []) ∧
      ∀ p, probe = some p → ∃ z ∈ (buildPod a).containerPorts, p.targets z

section Builders

variable (agent : Agent)

theorem containers_buildPod : (buildPod agent).containers = [buildContainer agent.spec] := rfl

theorem containerPorts_buildPod :
    (buildPod agent).containerPorts = agent.spec.ports.map (·.port) := by
  simp [Pod.containerPorts, containers_buildPod, buildContainer, Function.comp_def]

theorem targetPorts_buildService :
    (buildService agent).targetPorts = agent.spec.ports.map fun p => .int p.port := by
  simp [Service.targetPorts, buildService, Function.comp_def]

end Builders

theorem builders_fit (storageClass : Option String) (a b : Agent) : Fit storageClass a b := by
  refine ⟨?_, ?_, ?_, ?_, ?_, ?_, ?_⟩
  · exact agentSelector_matches a.nameAny b.nameAny
  · exact agentSelector_matches a.nameAny b.nameAny
  · refine ⟨pvcName a.nameAny, rfl, fun h => ?_, fun h => ?_⟩
    · exact (pvcName_injective (Option.some.inj h)).symm
    · rw [h]
      rfl
  · intro c hc m hm
    rw [containers_buildPod, List.mem_singleton] at hc
    subst hc
    rcases List.mem_cons.mp hm with rfl | hm
    · exact ⟨_, List.mem_cons_self, rfl⟩
    · obtain rfl := List.mem_singleton.mp hm
      exact ⟨_, List.mem_cons_of_mem _ List.mem_cons_self, rfl⟩
  · rw [targetPorts_buildService, containerPorts_buildPod, List.map_map]
    rfl
  · refine ⟨_, _, rfl, rfl, ?_⟩
    rw [containerPorts_buildPod, List.map_map, List.map_map]
    rfl
  · intro c hc probe hprobe
    rw [containers_buildPod, List.mem_singleton] at hc
    subst hc
    have htcp : ∃ period, probe = tcpProbe a.spec period := by
      rcases List.mem_cons.mp hprobe with rfl | hprobe
      · exact ⟨10, rfl⟩
      · exact ⟨5, List.mem_singleton.mp hprobe⟩
    obtain ⟨period, rfl⟩ := htcp
    refine ⟨tcpProbe_isSome a.spec period, fun p hp => ?_⟩
    obtain ⟨port, hport, htarget⟩ := tcpProbe_target hp
    rw [containerPorts_buildPod]
    exact ⟨port.port, List.mem_map_of_mem hport, htarget⟩

end Operator
end AgentHosting
