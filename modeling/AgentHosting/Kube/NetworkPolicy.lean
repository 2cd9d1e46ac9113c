import AgentHosting.Kube.Objects

/-!
# AgentHosting.Kube.NetworkPolicy

What network policies let through. A pod selected by a policy of a direction is closed in that
direction but for what the rules of its policies admit; a rule without peers admits every peer, and
one without ports every port and protocol. A connection between two pods needs the source's side and
the destination's.
-/

namespace AgentHosting
namespace Kube

inductive Protocol where
  | tcp
  | udp
  | sctp
deriving DecidableEq

def Protocol.name : Protocol → String
  | .tcp => "TCP"
  | .udp => "UDP"
  | .sctp => "SCTP"

/-- One end of a connection: a pod, or an address outside the cluster. -/
inductive Endpoint where
  | pod (p : Pod)
  | external (address : String)

/-- Whether a container of the pod has a port of this name, protocol and number. -/
def Pod.hasNamedPort (pod : Pod) (name : String) (proto : Protocol) (port : Int32) : Bool :=
  ((pod.spec.map (·.containers)).getD []).any fun c => (c.ports.getD []).any fun cp =>
    cp.name == some name && cp.protocol.getD "TCP" == proto.name && cp.containerPort == port

/-- A port entry, for a connection to `dst`; without a number it stands for every port. -/
def NetworkPolicyPort.admits (entry : NetworkPolicyPort) (dst : Endpoint) (proto : Protocol)
    (port : Int32) : Bool :=
  entry.protocol.getD "TCP" == proto.name &&
    match entry.port, dst with
    | none, _ => true
    | some (.int z), _ => z == port
    | some (.string name), .pod pod => pod.hasNamedPort name proto port
    | some (.string _), .external _ => false

/-- A peer entry of a policy in the namespace `ns`. -/
def NetworkPolicyPeer.admits (peer : NetworkPolicyPeer) (ns : Option String) : Endpoint → Bool
  | .pod p =>
    match peer.podSelector with
    | some sel => p.metadata.namespace == ns && sel.matches (p.metadata.labels.getD [])
    | none => false
  | .external _ => false

/-- A list of entries that stands for everything when it is missing or empty. -/
def anyOrAll {α : Type} (entries : Option (List α)) (admits : α → Bool) : Bool :=
  (entries.getD []).isEmpty || (entries.getD []).any admits

namespace NetworkPolicy

def selects (np : NetworkPolicy) (p : Pod) : Bool :=
  match np.spec with
  | some spec =>
    p.metadata.namespace == np.metadata.namespace &&
      spec.podSelector.matches (p.metadata.labels.getD [])
  | none => false

/-- Whether the policy closes ingress; without `policyTypes` every policy does. -/
def closesIngress (np : NetworkPolicy) : Bool :=
  match np.spec.bind (·.policyTypes) with
  | some types => types.contains "Ingress"
  | none => true

/-- Whether the policy closes egress; without `policyTypes` one with egress rules does. -/
def closesEgress (np : NetworkPolicy) : Bool :=
  match np.spec.bind (·.policyTypes) with
  | some types => types.contains "Egress"
  | none => !((np.spec.bind (·.egress)).getD []).isEmpty

def admitsIngress (np : NetworkPolicy) (src : Endpoint) (dst : Pod) (proto : Protocol)
    (port : Int32) : Bool :=
  ((np.spec.bind (·.ingress)).getD []).any fun rule =>
    anyOrAll rule.from (·.admits np.metadata.namespace src) &&
      anyOrAll rule.ports (·.admits (.pod dst) proto port)

def admitsEgress (np : NetworkPolicy) (dst : Endpoint) (proto : Protocol) (port : Int32) : Bool :=
  ((np.spec.bind (·.egress)).getD []).any fun rule =>
    anyOrAll rule.to (·.admits np.metadata.namespace dst) &&
      anyOrAll rule.ports (·.admits dst proto port)

end NetworkPolicy

section Traffic

variable (policies : List NetworkPolicy)

def ingressAllowed (src : Endpoint) (dst : Pod) (proto : Protocol) (port : Int32) : Bool :=
  anyOrAll (some (policies.filter fun np => np.selects dst && np.closesIngress))
    (·.admitsIngress src dst proto port)

def egressAllowed (src : Pod) (dst : Endpoint) (proto : Protocol) (port : Int32) : Bool :=
  anyOrAll (some (policies.filter fun np => np.selects src && np.closesEgress))
    (·.admitsEgress dst proto port)

/-- Whether the policies of the cluster let a pod connect to another. -/
def connects (src dst : Pod) (proto : Protocol) (port : Int32) : Bool :=
  egressAllowed policies src (.pod dst) proto port &&
    ingressAllowed policies (.pod src) dst proto port

end Traffic

/-! ## Rules -/

theorem anyOrAll_none {α : Type} (admits : α → Bool) : anyOrAll none admits = true := rfl

theorem anyOrAll_of_ne_nil {α : Type} {xs : List α} (h : xs ≠ []) (admits : α → Bool) :
    anyOrAll (some xs) admits = xs.any admits := by
  simp [anyOrAll, h]

/-- A pod that exactly one of the policies selects goes by that policy alone. -/
theorem anyOrAll_filter_unique {α : Type} {xs : List α} {x : α} {selected admits : α → Bool}
    (hx : x ∈ xs) (hselected : selected x = true)
    (hunique : ∀ y ∈ xs, selected y = true → y = x) :
    anyOrAll (some (xs.filter selected)) admits = admits x := by
  have hmem : x ∈ xs.filter selected := List.mem_filter.mpr ⟨hx, hselected⟩
  rw [anyOrAll_of_ne_nil (List.ne_nil_of_mem hmem)]
  apply Bool.eq_iff_iff.mpr
  rw [List.any_eq_true]
  constructor
  · rintro ⟨y, hy, hadmits⟩
    obtain ⟨hy, hsel⟩ := List.mem_filter.mp hy
    rwa [hunique y hy hsel] at hadmits
  · exact fun hadmits => ⟨x, hmem, hadmits⟩

end Kube
end AgentHosting
