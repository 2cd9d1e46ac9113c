/-!
# AgentHosting.Kube.Objects

The Kubernetes objects the operator builds and reads, with the fields it sets or looks at. A field
the builders leave at its default and nothing reads is left out; an optional field that is read or
written stays an `Option`, as in the API types.
-/

namespace AgentHosting
namespace Kube

/-- A map with string keys, as the entries in the order they were first inserted. -/
abbrev BTreeMap (α : Type) := List (String × α)

namespace BTreeMap

def get {α : Type} (m : BTreeMap α) (k : String) : Option α := m.lookup k

def insert {α : Type} : BTreeMap α → String → α → BTreeMap α
  | [], k, v => [(k, v)]
  | (k', v') :: m, k, v => if k' = k then (k, v) :: m else (k', v') :: insert m k v

def mapValues {α β : Type} (f : α → β) (m : BTreeMap α) : BTreeMap β :=
  m.map fun kv => (kv.1, f kv.2)

theorem get_cons {α : Type} (kv : String × α) (m : BTreeMap α) (k : String) :
    get (kv :: m) k = if k == kv.1 then some kv.2 else get m k := by
  obtain ⟨k', v⟩ := kv
  simp only [get, List.lookup_cons]
  cases k == k' <;> rfl

theorem get_mapValues {α β : Type} (f : α → β) (m : BTreeMap α) (k : String) :
    get (mapValues f m) k = (get m k).map f := by
  induction m with
  | nil => rfl
  | cons kv m ih =>
    have hmap : mapValues f (kv :: m) = (kv.1, f kv.2) :: mapValues f m := rfl
    rw [hmap, get_cons, get_cons, ih]
    cases k == kv.1 <;> rfl

end BTreeMap

/-- A resource quantity, as the string it is spelled with. -/
abbrev Quantity := String

structure OwnerReference where
  apiVersion : String
  kind : String
  name : String
  uid : String
  controller : Option Bool
  blockOwnerDeletion : Option Bool
deriving DecidableEq

structure ObjectMeta where
  name : Option String := none
  generateName : Option String := none
  «namespace» : Option String := none
  uid : Option String := none
  labels : Option (BTreeMap String) := none
  ownerReferences : Option (List OwnerReference) := none
  creationTimestamp : Option String := none
  /-- Set on an object whose deletion was accepted and has not finished. -/
  deletionTimestamp : Option String := none
deriving DecidableEq

/-- `ResourceExt::name_any`. -/
def ObjectMeta.nameAny (m : ObjectMeta) : String := (m.name.or m.generateName).getD ""

inductive IntOrString where
  | int (z : Int32)
  | string (s : String)
deriving DecidableEq

/-! ## Pods -/

structure Capabilities where
  add : Option (List String) := none
  drop : Option (List String) := none
deriving DecidableEq

structure SecurityContext where
  runAsNonRoot : Option Bool := none
  runAsUser : Option Int64 := none
  readOnlyRootFilesystem : Option Bool := none
  allowPrivilegeEscalation : Option Bool := none
  capabilities : Option Capabilities := none
deriving DecidableEq

structure ResourceRequirements where
  limits : Option (BTreeMap Quantity) := none
  requests : Option (BTreeMap Quantity) := none
deriving DecidableEq

def ResourceRequirements.respell (f : Quantity → Quantity) (r : ResourceRequirements) :
    ResourceRequirements where
  limits := r.limits.map (·.mapValues f)
  requests := r.requests.map (·.mapValues f)

structure EnvVar where
  name : String
  value : Option String := none
deriving DecidableEq

structure ContainerPort where
  containerPort : Int32
  name : Option String := none
  protocol : Option String := none
deriving DecidableEq

structure VolumeMount where
  name : String
  mountPath : String
  readOnly : Option Bool := none
deriving DecidableEq

structure TcpSocketAction where
  port : IntOrString
deriving DecidableEq

structure Probe where
  tcpSocket : Option TcpSocketAction := none
  initialDelaySeconds : Option Int32 := none
  periodSeconds : Option Int32 := none
  failureThreshold : Option Int32 := none
deriving DecidableEq

structure Container where
  name : String
  image : Option String := none
  command : Option (List String) := none
  ports : Option (List ContainerPort) := none
  resources : Option ResourceRequirements := none
  securityContext : Option SecurityContext := none
  volumeMounts : Option (List VolumeMount) := none
  livenessProbe : Option Probe := none
  readinessProbe : Option Probe := none
  env : Option (List EnvVar) := none
deriving DecidableEq

structure PersistentVolumeClaimVolumeSource where
  claimName : String
  readOnly : Option Bool := none
deriving DecidableEq

/-- An `emptyDir` volume with default settings. -/
structure EmptyDirVolumeSource where
deriving DecidableEq

structure Volume where
  name : String
  persistentVolumeClaim : Option PersistentVolumeClaimVolumeSource := none
  emptyDir : Option EmptyDirVolumeSource := none
deriving DecidableEq

structure PodSpec where
  containers : List Container
  nodeName : Option String := none
  /-- Node constraint of the scheduler; the builders never set it. -/
  nodeSelector : Option (BTreeMap String) := none
  runtimeClassName : Option String := none
  hostUsers : Option Bool := none
  restartPolicy : Option String := none
  terminationGracePeriodSeconds : Option Int64 := none
  volumes : Option (List Volume) := none
deriving DecidableEq

structure ContainerStateWaiting where
  reason : Option String := none
deriving DecidableEq

structure ContainerState where
  waiting : Option ContainerStateWaiting := none
deriving DecidableEq

structure ContainerStatus where
  name : String
  restartCount : Int32
  state : Option ContainerState := none
deriving DecidableEq

structure PodStatus where
  phase : Option String := none
  podIp : Option String := none
  containerStatuses : Option (List ContainerStatus) := none
deriving DecidableEq

structure Pod where
  metadata : ObjectMeta
  spec : Option PodSpec := none
  status : Option PodStatus := none
deriving DecidableEq

def Pod.respell (f : Quantity → Quantity) (p : Pod) : Pod :=
  { p with spec := p.spec.map fun spec =>
      { spec with containers := spec.containers.map fun c =>
          { c with resources := c.resources.map (·.respell f) } } }

/-! ## Persistent volume claims -/

structure VolumeResourceRequirements where
  requests : Option (BTreeMap Quantity) := none
deriving DecidableEq

structure PersistentVolumeClaimSpec where
  accessModes : Option (List String) := none
  storageClassName : Option String := none
  resources : Option VolumeResourceRequirements := none
deriving DecidableEq

structure PersistentVolumeClaim where
  metadata : ObjectMeta
  spec : Option PersistentVolumeClaimSpec := none
deriving DecidableEq

def PersistentVolumeClaim.respell (f : Quantity → Quantity) (c : PersistentVolumeClaim) :
    PersistentVolumeClaim :=
  { c with spec := c.spec.map fun spec =>
      { spec with resources := spec.resources.map fun r =>
          { r with requests := r.requests.map (·.mapValues f) } } }

/-! ## Network policies -/

structure LabelSelector where
  matchLabels : Option (BTreeMap String) := none
deriving DecidableEq

/-- A peer given by a pod selector; the policies here use no other kind. -/
structure NetworkPolicyPeer where
  podSelector : Option LabelSelector := none
deriving DecidableEq

structure NetworkPolicyPort where
  port : Option IntOrString := none
  protocol : Option String := none
deriving DecidableEq

structure NetworkPolicyIngressRule where
  «from» : Option (List NetworkPolicyPeer) := none
  ports : Option (List NetworkPolicyPort) := none
deriving DecidableEq

structure NetworkPolicyEgressRule where
  «to» : Option (List NetworkPolicyPeer) := none
  ports : Option (List NetworkPolicyPort) := none
deriving DecidableEq

structure NetworkPolicySpec where
  podSelector : LabelSelector
  ingress : Option (List NetworkPolicyIngressRule) := none
  egress : Option (List NetworkPolicyEgressRule) := none
  policyTypes : Option (List String) := none
deriving DecidableEq

structure NetworkPolicy where
  metadata : ObjectMeta
  spec : Option NetworkPolicySpec := none
deriving DecidableEq

/-! ## Services -/

structure ServicePort where
  name : Option String := none
  port : Int32
  targetPort : Option IntOrString := none
  protocol : Option String := none
  nodePort : Option Int32 := none
deriving DecidableEq

structure ServiceSpec where
  type : Option String := none
  selector : Option (BTreeMap String) := none
  ports : Option (List ServicePort) := none
deriving DecidableEq

structure Service where
  metadata : ObjectMeta
  spec : Option ServiceSpec := none
deriving DecidableEq

/-- A label selector without expressions: every listed label has the listed value. -/
def LabelSelector.matches (sel : LabelSelector) (labels : BTreeMap String) : Bool :=
  (sel.matchLabels.getD []).all fun kv => labels.get kv.1 == some kv.2

end Kube
end AgentHosting
