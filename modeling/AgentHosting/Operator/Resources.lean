import Mathlib.Data.List.Pairwise
import AgentHosting.Lib.Decimal
import AgentHosting.Operator.Crd
import AgentHosting.Kube.Objects

/-!
# AgentHosting.Operator.Resources

The builders of `operator/src/resources.rs`: what the operator creates for an Agent. An `f64` is
taken as an exact rational with infinities and a NaN; a `u64` product carries, besides its value
in the release profile (modulo `2^64`), whether it overflowed (the debug profile panics there).
-/

namespace AgentHosting
namespace Operator

open Kube Decimal

/-! ## Standard library -/

/-- `str::strip_suffix`. -/
def stripSuffix (s suffix : String) : Option String :=
  if suffix.toList <:+ s.toList then
    some (String.ofList (s.toList.take (s.toList.length - suffix.toList.length)))
  else none

/-- `2^64`, where `u64` wraps. -/
def u64Size : Nat := 18446744073709551616

/-- `str::parse::<u64>`: an optional plus sign and at least one digit, in range. -/
def parseU64 (s : String) : Option Nat :=
  let ds := match s.toList with
    | '+' :: cs => cs
    | cs => cs
  if ds ≠ [] ∧ ds.all Char.isDigit ∧ digitsValue ds < u64Size then some (digitsValue ds) else none

/-- `u64::overflowing_mul`. -/
def overflowingMul (a b : Nat) : Nat × Bool := (a * b % u64Size, decide (u64Size ≤ a * b))

inductive F64 where
  | nan
  | inf (neg : Bool)
  | fin (q : Rat)

/-- `str::parse::<f64>`. -/
def parseF64 (s : String) : Option F64 :=
  let (neg, cs) := splitSign s.toList
  let word := cs.map Char.toLower
  if word = "inf".toList ∨ word = "infinity".toList then some (.inf neg)
  else if word = "nan".toList then some .nan
  else
    let n := numeral cs
    if n.nonempty then (parseExponent n.rest).map fun e => .fin (n.scaled neg e) else none

/-- `v as u64`: truncated, and clamped to the range. -/
def F64.toU64 : F64 → Nat
  | .nan => 0
  | .inf neg => if neg then 0 else u64Size - 1
  | .fin q => min q.floor.toNat (u64Size - 1)

def F64.scale (k : Rat) : F64 → F64
  | .fin q => .fin (q * k)
  | v => v

/-! ## Resource requests -/

/-- Parse a CPU spec into millicores. -/
def parseCpuMillis (s : String) : Nat :=
  match stripSuffix s "m" with
  | some m => (parseU64 m).getD 1000
  | none =>
    match parseF64 s with
    | some v => (v.scale 1000).toU64
    | none => 1000

/-- Parse a memory spec into MiB; the flag tells that the product overflowed. -/
def parseMemoryMi (s : String) : Nat × Bool :=
  match stripSuffix s "Gi" with
  | some v => overflowingMul ((parseU64 v).getD 2) 1024
  | none =>
    match stripSuffix s "Mi" with
    | some v => ((parseU64 v).getD 512, false)
    | none =>
      match stripSuffix s "G" with
      | some v => overflowingMul ((parseU64 v).getD 2) 1024
      | none =>
        match stripSuffix s "M" with
        | some v => ((parseU64 v).getD 512, false)
        | none => (512, false)

/-! ## Building blocks -/

def buildSecurityContext (profile : String) : SecurityContext :=
  if profile = "trusted" then
    { capabilities := some {
        drop := some ["ALL"]
        add := some ["NET_BIND_SERVICE", "CHOWN", "FOWNER", "SETUID", "SETGID", "DAC_OVERRIDE",
          "SYS_CHROOT"] } }
  else
    { runAsNonRoot := some true
      runAsUser := some 1000
      readOnlyRootFilesystem := some true
      allowPrivilegeEscalation := some false
      capabilities := some { drop := some ["ALL"], add := some ["NET_BIND_SERVICE"] } }

def agentLabels (name : String) : BTreeMap String :=
  (BTreeMap.insert [] "agents.near.ai/name" name).insert "app" "agent"

def ownerReference (agent : Agent) : OwnerReference where
  apiVersion := "agents.near.ai/v1"
  kind := "Agent"
  name := agent.metadata.name.getD ""
  uid := agent.metadata.uid.getD ""
  controller := some true
  blockOwnerDeletion := some true

def childMeta (agent : Agent) (name : String) : ObjectMeta where
  name := some name
  «namespace» := some (agent.metadata.namespace.getD "agents")
  labels := some (agentLabels agent.nameAny)
  ownerReferences := some [ownerReference agent]

def pvcName (name : String) : String := "agent-" ++ name ++ "-data"

def podName (name : String) : String := "agent-" ++ name

def netpolName (name : String) : String := "agent-" ++ name ++ "-isolation"

def serviceName (name : String) : String := "agent-" ++ name

/-! ## The four objects of an Agent -/

/-- `storageClass` is the environment variable `STORAGE_CLASS`. -/
def buildPvc (storageClass : Option String) (agent : Agent) : PersistentVolumeClaim where
  metadata := childMeta agent (pvcName agent.nameAny)
  spec := some {
    accessModes := some ["ReadWriteOnce"]
    storageClassName := some (storageClass.getD "local-path")
    resources := some { requests := some (BTreeMap.insert [] "storage" agent.spec.disk) } }

/-- A TCP probe of the first port, none when a command override is set. -/
def tcpProbe (spec : AgentSpec) (period : Int32) : Option Probe :=
  if spec.command.isEmpty then
    spec.ports.head?.map fun p =>
      { tcpSocket := some { port := .int p.port }
        initialDelaySeconds := some 30
        periodSeconds := some period
        failureThreshold := some 10 }
  else none

def containerEnv (spec : AgentSpec) : List Kube.EnvVar :=
  spec.env.map (fun e => { name := e.name, value := some e.value }) ++
    match spec.sshPubkey with
    | some pubkey => [{ name := "SSH_PUBKEY", value := some pubkey }]
    | none => []

def containerResources (spec : AgentSpec) : ResourceRequirements where
  requests := some
    ((BTreeMap.insert [] "cpu" (toString (parseCpuMillis spec.cpu / 4) ++ "m")).insert "memory"
      (toString ((parseMemoryMi spec.memory).1 / 4) ++ "Mi"))
  limits := some ((BTreeMap.insert [] "cpu" spec.cpu).insert "memory" spec.memory)

def buildContainer (spec : AgentSpec) : Container where
  name := "agent"
  image := some spec.image
  command := if spec.command.isEmpty then none else some spec.command
  ports := some (spec.ports.map fun p =>
    { containerPort := p.port, name := some p.name, protocol := some "TCP" })
  resources := some (containerResources spec)
  securityContext := some (buildSecurityContext spec.securityProfile)
  volumeMounts := some [
    { name := "agent-data", mountPath := spec.volumeMount },
    { name := "tmp", mountPath := "/tmp" }]
  livenessProbe := tcpProbe spec 10
  readinessProbe := tcpProbe spec 5
  env := if (containerEnv spec).isEmpty then none else some (containerEnv spec)

def buildPod (agent : Agent) : Pod where
  metadata := childMeta agent (podName agent.nameAny)
  spec := some {
    containers := [buildContainer agent.spec]
    runtimeClassName := if agent.spec.enableDocker then some "sysbox-runc" else none
    hostUsers := if agent.spec.enableDocker then some false else none
    restartPolicy := some "Always"
    terminationGracePeriodSeconds := some 30
    volumes := some [
      { name := "agent-data"
        persistentVolumeClaim :=
          some { claimName := pvcName agent.nameAny, readOnly := some false } },
      { name := "tmp", emptyDir := some {} }] }

def podSelectorPeer (app : String) : NetworkPolicyPeer where
  podSelector := some { matchLabels := some (BTreeMap.insert [] "app" app) }

def policyPort (port : Int32) (protocol : String) : NetworkPolicyPort where
  port := some (.int port)
  protocol := some protocol

def buildNetworkPolicy (agent : Agent) : NetworkPolicy where
  metadata := childMeta agent (netpolName agent.nameAny)
  spec := some {
    podSelector :=
      { matchLabels := some (BTreeMap.insert [] "agents.near.ai/name" agent.nameAny) }
    ingress := some [
      { «from» := some [podSelectorPeer "ingress-controller", podSelectorPeer "ssh-proxy"] },
      { ports := some (agent.spec.ports.map fun p => policyPort p.port "TCP") }]
    egress := some [
      { «to» := none
        ports := some [policyPort 53 "UDP", policyPort 53 "TCP", policyPort 80 "TCP",
          policyPort 443 "TCP"] }]
    policyTypes := some ["Ingress", "Egress"] }

def buildService (agent : Agent) : Service where
  metadata := childMeta agent (serviceName agent.nameAny)
  spec := some {
    type := some "NodePort"
    selector := some (BTreeMap.insert [] "agents.near.ai/name" agent.nameAny)
    ports := some (agent.spec.ports.map fun p =>
      { name := some p.name, port := p.port, targetPort := some (.int p.port),
        protocol := some "TCP" }) }

/-- An Agent with the defaults of its spec, for concrete runs. -/
def Agent.sample (name uid : String) (state : AgentState) : Agent where
  metadata := { name := some name, «namespace» := some "agents", uid := some uid }
  spec := {
    image := "agent:v1", state := state, cpu := defaultCpu, memory := defaultMemory
    disk := defaultDisk, volumeMount := defaultVolumeMount
    securityProfile := defaultSecurityProfile, env := [], enableDocker := false
    ports := defaultPorts, command := [], sshPubkey := none, serviceType := none, nodeId := none }

/-! ## Suffixes -/

theorem stripSuffix_eq {s suffix t : String} (h : stripSuffix s suffix = some t) :
    s = t ++ suffix := by
  obtain ⟨⟨pre, hpre⟩, ht⟩ := Option.ite_none_right_eq_some.mp h
  have htake : s.toList.take (s.toList.length - suffix.toList.length) = pre := by
    rw [← hpre, List.length_append, Nat.add_sub_cancel, List.take_left]
  obtain rfl := Option.some.inj ht
  apply String.toList_injective
  rw [String.toList_append, String.toList_ofList, htake, hpre]

theorem stripSuffix_append (t suffix : String) : stripSuffix (t ++ suffix) suffix = some t := by
  have hsuffix : suffix.toList <:+ (t ++ suffix).toList := by
    rw [String.toList_append]
    exact List.suffix_append _ _
  rw [stripSuffix, if_pos hsuffix, String.toList_append, List.length_append, Nat.add_sub_cancel,
    List.take_left, String.ofList_toList]

theorem stripSuffix_eq_none {s suffix : String} :
    stripSuffix s suffix = none ↔ ¬ suffix.toList <:+ s.toList := by
  simp [stripSuffix]

/-- Of two suffixes neither of which ends the other, a text has one at most. -/
theorem stripSuffix_other (t : String) {suffix other : String}
    (h : ¬ suffix.toList <:+ other.toList) (h' : ¬ other.toList <:+ suffix.toList) :
    stripSuffix (t ++ suffix) other = none := by
  rw [stripSuffix_eq_none, String.toList_append]
  intro hother
  rcases List.suffix_or_suffix_of_suffix hother (List.suffix_append _ _) with hends | hends
  · exact h' hends
  · exact h hends

/-! ## Units of memory -/

/-- A count in front of a unit that is counted in GiB. -/
def IsGiga (s count : String) : Prop := s = count ++ "Gi" ∨ s = count ++ "G"

/-- A count in front of a unit that is counted in MiB. -/
def IsMega (s count : String) : Prop := s = count ++ "Mi" ∨ s = count ++ "M"

theorem parseMemoryMi_giga {s t : String} (h : IsGiga s t) :
    parseMemoryMi s = overflowingMul ((parseU64 t).getD 2) 1024 := by
  rcases h with rfl | rfl
  · simp only [parseMemoryMi, stripSuffix_append]
  · have hGi : stripSuffix (t ++ "G") "Gi" = none := stripSuffix_other t (by decide) (by decide)
    have hMi : stripSuffix (t ++ "G") "Mi" = none := stripSuffix_other t (by decide) (by decide)
    simp only [parseMemoryMi, hGi, hMi, stripSuffix_append]

theorem parseMemoryMi_mega {s t : String} (h : IsMega s t) :
    parseMemoryMi s = ((parseU64 t).getD 512, false) := by
  rcases h with rfl | rfl
  · have hGi : stripSuffix (t ++ "Mi") "Gi" = none := stripSuffix_other t (by decide) (by decide)
    simp only [parseMemoryMi, hGi, stripSuffix_append]
  · have hGi : stripSuffix (t ++ "M") "Gi" = none := stripSuffix_other t (by decide) (by decide)
    have hMi : stripSuffix (t ++ "M") "Mi" = none := stripSuffix_other t (by decide) (by decide)
    have hG : stripSuffix (t ++ "M") "G" = none := stripSuffix_other t (by decide) (by decide)
    simp only [parseMemoryMi, hGi, hMi, hG, stripSuffix_append]

theorem parseMemoryMi_other {s : String} (hgiga : ∀ t, ¬ IsGiga s t) (hmega : ∀ t, ¬ IsMega s t) :
    parseMemoryMi s = (512, false) := by
  have hnone : ∀ suffix, (∀ t, s ≠ t ++ suffix) → stripSuffix s suffix = none :=
    fun suffix h => Option.eq_none_iff_forall_ne_some.mpr fun t ht => h t (stripSuffix_eq ht)
  have hGi := hnone "Gi" fun t ht => hgiga t (.inl ht)
  have hMi := hnone "Mi" fun t ht => hmega t (.inl ht)
  have hG := hnone "G" fun t ht => hgiga t (.inr ht)
  have hM := hnone "M" fun t ht => hmega t (.inr ht)
  simp only [parseMemoryMi, hGi, hMi, hG, hM]

/-! ## Names -/

theorem podName_injective {a b : String} (h : podName a = podName b) : a = b := by
  simpa [podName] using h

theorem serviceName_injective {a b : String} (h : serviceName a = serviceName b) : a = b := by
  simpa [serviceName] using h

theorem pvcName_injective {a b : String} (h : pvcName a = pvcName b) : a = b := by
  simpa [pvcName, String.append_assoc] using h

theorem netpolName_injective {a b : String} (h : netpolName a = netpolName b) : a = b := by
  simpa [netpolName, String.append_assoc] using h

/-- Among Agents of different names, the name tells the Agent. -/
theorem eq_of_nameAny {agents : List Agent}
    (hnames : agents.Pairwise fun a b => a.nameAny ≠ b.nameAny) {a b : Agent} (ha : a ∈ agents)
    (hb : b ∈ agents) (h : a.nameAny = b.nameAny) : a = b := by
  have hsym : Std.Symm fun a b : Agent => a.nameAny ≠ b.nameAny := ⟨fun _ _ h => h.symm⟩
  rcases Classical.em (a = b) with rfl | hne
  · rfl
  · exact (hnames.forall ha hb hne h).elim

end Operator
end AgentHosting
