import AgentHosting.Lib.Json
import AgentHosting.Kube.Objects

/-!
# AgentHosting.Api.Crd

The API server's copy of the Agent custom resource, with its own defaults, encoding and decoding.
The two copies share no code; they meet only as JSON.

A decoder answers `none` where serde reports an error. Structs are decoded from JSON objects, with
unknown members ignored, and list elements also from the array of their fields. Serde would also
take the array form for a whole spec or status and an object with one `null` member for a state;
the CRD's schema refuses both before anything is stored, and neither is modelled.
-/

namespace AgentHosting
namespace Api

open Json

inductive AgentState where
  | running
  | stopped
deriving DecidableEq

structure EnvVar where
  name : String
  value : String
deriving DecidableEq

structure PortSpec where
  name : String
  port : Int32
deriving DecidableEq

structure NodePort where
  name : String
  port : Int32
  nodePort : Int32
deriving DecidableEq

structure AgentSpec where
  image : String
  cpu : String
  memory : String
  disk : String
  state : AgentState
  volumeMount : String
  securityProfile : String
  env : List EnvVar
  enableDocker : Bool
  ports : List PortSpec
  command : List String
  sshPubkey : Option String
  serviceType : Option String
  nodeId : Option String
deriving DecidableEq

structure AgentStatus where
  phase : Option String := none
  hostNode : Option String := none
  podIp : Option String := none
  sshPort : Option Int32 := none
  restartCount : Option Int32 := none
  lastBackup : Option String := none
  message : Option String := none
  nodePorts : List NodePort := []
deriving DecidableEq

structure Agent where
  metadata : Kube.ObjectMeta
  spec : AgentSpec
  status : Option AgentStatus := none

/-! ## Defaults -/

def defaultState : AgentState := .running

def defaultCpu : String := "1"

def defaultMemory : String := "4Gi"

def defaultDisk : String := "10Gi"

def defaultVolumeMount : String := "/home/agent"

def defaultSecurityProfile : String := "restricted"

def defaultPorts : List PortSpec := [⟨"ssh", 22⟩, ⟨"http", 80⟩]

/-! ## Encoding -/

def AgentState.toJson : AgentState → Json
  | .running => .str "running"
  | .stopped => .str "stopped"

def EnvVar.toJson (e : EnvVar) : Json :=
  object [("name", .str e.name), ("value", .str e.value)]

def PortSpec.toJson (p : PortSpec) : Json :=
  object [("name", .str p.name), ("port", ofI32 p.port)]

def NodePort.toJson (p : NodePort) : Json :=
  object [("name", .str p.name), ("port", ofI32 p.port), ("node_port", ofI32 p.nodePort)]

def AgentSpec.toJson (s : AgentSpec) : Json :=
  record [
    ("image", some (.str s.image)),
    ("cpu", some (.str s.cpu)),
    ("memory", some (.str s.memory)),
    ("disk", some (.str s.disk)),
    ("state", some s.state.toJson),
    ("volume_mount", some (.str s.volumeMount)),
    ("security_profile", some (.str s.securityProfile)),
    ("env", some (.arr (s.env.map EnvVar.toJson))),
    ("enable_docker", some (.bool s.enableDocker)),
    ("ports", some (.arr (s.ports.map PortSpec.toJson))),
    ("command", skipEmpty .str s.command),
    ("ssh_pubkey", s.sshPubkey.map .str),
    ("service_type", s.serviceType.map .str),
    ("node_id", s.nodeId.map .str)]

/-- `phase` and `restart_count` are written as `null` when absent, the others are left out. -/
def AgentStatus.toJson (s : AgentStatus) : Json :=
  record [
    ("phase", some (ofOption (s.phase.map .str))),
    ("host_node", s.hostNode.map .str),
    ("pod_ip", s.podIp.map .str),
    ("ssh_port", s.sshPort.map ofI32),
    ("restart_count", some (ofOption (s.restartCount.map ofI32))),
    ("last_backup", s.lastBackup.map .str),
    ("message", s.message.map .str),
    ("node_ports", skipEmpty NodePort.toJson s.nodePorts)]

/-! ## Decoding -/

def AgentState.fromJson : Json → Option AgentState
  | .str s => if s = "running" then some .running else if s = "stopped" then some .stopped else none
  | _ => none

def EnvVar.fromJson : Json → Option EnvVar
  | .obj f => do
    let name ← field f "name" none string?
    let value ← field f "value" none string?
    return ⟨name, value⟩
  | .arr [name, value] => do
    let name ← string? name
    let value ← string? value
    return ⟨name, value⟩
  | _ => none

def PortSpec.fromJson : Json → Option PortSpec
  | .obj f => do
    let name ← field f "name" none string?
    let port ← field f "port" none i32?
    return ⟨name, port⟩
  | .arr [name, port] => do
    let name ← string? name
    let port ← i32? port
    return ⟨name, port⟩
  | _ => none

def NodePort.fromJson : Json → Option NodePort
  | .obj f => do
    let name ← field f "name" none string?
    let port ← field f "port" none i32?
    let nodePort ← field f "node_port" none i32?
    return ⟨name, port, nodePort⟩
  | .arr [name, port, nodePort] => do
    let name ← string? name
    let port ← i32? port
    let nodePort ← i32? nodePort
    return ⟨name, port, nodePort⟩
  | _ => none

def AgentSpec.fromJson : Json → Option AgentSpec
  | .obj f => do
    let image ← field f "image" none string?
    let cpu ← field f "cpu" (some defaultCpu) string?
    let memory ← field f "memory" (some defaultMemory) string?
    let disk ← field f "disk" (some defaultDisk) string?
    let state ← field f "state" (some defaultState) AgentState.fromJson
    let volumeMount ← field f "volume_mount" (some defaultVolumeMount) string?
    let securityProfile ← field f "security_profile" (some defaultSecurityProfile) string?
    let env ← field f "env" (some []) (seq EnvVar.fromJson)
    let enableDocker ← field f "enable_docker" (some false) bool?
    let ports ← field f "ports" (some defaultPorts) (seq PortSpec.fromJson)
    let command ← field f "command" (some []) (seq string?)
    let sshPubkey ← field f "ssh_pubkey" (some none) (opt string?)
    let serviceType ← field f "service_type" (some none) (opt string?)
    let nodeId ← field f "node_id" (some none) (opt string?)
    return { image, cpu, memory, disk, state, volumeMount, securityProfile,
             env, enableDocker, ports, command, sshPubkey, serviceType, nodeId }
  | _ => none

def AgentStatus.fromJson : Json → Option AgentStatus
  | .obj f => do
    let phase ← field f "phase" (some none) (opt string?)
    let hostNode ← field f "host_node" (some none) (opt string?)
    let podIp ← field f "pod_ip" (some none) (opt string?)
    let sshPort ← field f "ssh_port" (some none) (opt i32?)
    let restartCount ← field f "restart_count" (some none) (opt i32?)
    let lastBackup ← field f "last_backup" (some none) (opt string?)
    let message ← field f "message" (some none) (opt string?)
    let nodePorts ← field f "node_ports" (some []) (seq NodePort.fromJson)
    return { phase, hostNode, podIp, sshPort, restartCount, lastBackup, message, nodePorts }
  | _ => none

/-- The `status` of an Agent: absent and `null` are none. -/
def AgentStatus.fromStored : Option Json → Option (Option AgentStatus)
  | none => some none
  | some v => opt AgentStatus.fromJson v

end Api
end AgentHosting
