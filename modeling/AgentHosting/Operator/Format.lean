import AgentHosting.Operator.Crd
import AgentHosting.Api.Crd

/-!
# AgentHosting.Operator.Format

The two copies of the Agent types as one format. `toApi` and `toOperator` carry a value of one crate
to the other, field by field.

* `fromJson_toJson`     — each crate reads back what it wrote.
* `api_fromJson_obj`    — on every JSON object the two decoders agree.
* `crd_copies_agree`    — what one crate wrote the other reads, as the same value.
-/

namespace AgentHosting

open Json

/-! ## From one crate to the other -/

namespace Operator

def AgentState.toApi : AgentState → Api.AgentState
  | .running => .running
  | .stopped => .stopped

def EnvVar.toApi (e : EnvVar) : Api.EnvVar := ⟨e.name, e.value⟩

def PortSpec.toApi (p : PortSpec) : Api.PortSpec := ⟨p.name, p.port⟩

def NodePort.toApi (p : NodePort) : Api.NodePort := ⟨p.name, p.port, p.nodePort⟩

def AgentSpec.toApi (s : AgentSpec) : Api.AgentSpec where
  image := s.image
  cpu := s.cpu
  memory := s.memory
  disk := s.disk
  state := s.state.toApi
  volumeMount := s.volumeMount
  securityProfile := s.securityProfile
  env := s.env.map EnvVar.toApi
  enableDocker := s.enableDocker
  ports := s.ports.map PortSpec.toApi
  command := s.command
  sshPubkey := s.sshPubkey
  serviceType := s.serviceType
  nodeId := s.nodeId

def AgentStatus.toApi (s : AgentStatus) : Api.AgentStatus where
  phase := s.phase
  hostNode := s.hostNode
  podIp := s.podIp
  sshPort := s.sshPort
  restartCount := s.restartCount
  lastBackup := s.lastBackup
  message := s.message
  nodePorts := s.nodePorts.map NodePort.toApi

end Operator

namespace Api

def AgentState.toOperator : AgentState → Operator.AgentState
  | .running => .running
  | .stopped => .stopped

def EnvVar.toOperator (e : EnvVar) : Operator.EnvVar := ⟨e.name, e.value⟩

def PortSpec.toOperator (p : PortSpec) : Operator.PortSpec := ⟨p.name, p.port⟩

def NodePort.toOperator (p : NodePort) : Operator.NodePort := ⟨p.name, p.port, p.nodePort⟩

def AgentSpec.toOperator (s : AgentSpec) : Operator.AgentSpec where
  image := s.image
  state := s.state.toOperator
  cpu := s.cpu
  memory := s.memory
  disk := s.disk
  volumeMount := s.volumeMount
  securityProfile := s.securityProfile
  env := s.env.map EnvVar.toOperator
  enableDocker := s.enableDocker
  ports := s.ports.map PortSpec.toOperator
  command := s.command
  sshPubkey := s.sshPubkey
  serviceType := s.serviceType
  nodeId := s.nodeId

def AgentStatus.toOperator (s : AgentStatus) : Operator.AgentStatus where
  phase := s.phase
  hostNode := s.hostNode
  podIp := s.podIp
  sshPort := s.sshPort
  restartCount := s.restartCount
  lastBackup := s.lastBackup
  message := s.message
  nodePorts := s.nodePorts.map NodePort.toOperator

theorem AgentState.toApi_toOperator (s : AgentState) : s.toOperator.toApi = s := by
  cases s <;> rfl

theorem AgentSpec.toApi_toOperator (s : AgentSpec) : s.toOperator.toApi = s := by
  have henv : Operator.EnvVar.toApi ∘ EnvVar.toOperator = id := rfl
  have hports : Operator.PortSpec.toApi ∘ PortSpec.toOperator = id := rfl
  simp only [toOperator, Operator.AgentSpec.toApi, List.map_map, henv, hports, List.map_id,
    AgentState.toApi_toOperator]

theorem AgentStatus.toApi_toOperator (s : AgentStatus) : s.toOperator.toApi = s := by
  have hports : Operator.NodePort.toApi ∘ NodePort.toOperator = id := rfl
  simp only [toOperator, Operator.AgentStatus.toApi, List.map_map, hports, List.map_id]

end Api

namespace Operator

theorem AgentState.toOperator_toApi (s : AgentState) : s.toApi.toOperator = s := by
  cases s <;> rfl

theorem AgentState.toApi_injective : Function.Injective AgentState.toApi :=
  Function.LeftInverse.injective toOperator_toApi

theorem EnvVar.toApi_injective : Function.Injective EnvVar.toApi :=
  Function.LeftInverse.injective (g := Api.EnvVar.toOperator) fun _ => rfl

theorem PortSpec.toApi_injective : Function.Injective PortSpec.toApi :=
  Function.LeftInverse.injective (g := Api.PortSpec.toOperator) fun _ => rfl

theorem NodePort.toApi_injective : Function.Injective NodePort.toApi :=
  Function.LeftInverse.injective (g := Api.NodePort.toOperator) fun _ => rfl

/-- Two results that agree value by value, where every value of one side is the image of one of the
other. -/
theorem eq_map_of_iff {α β : Type} {x : Option α} {y : Option β} {g : α → β} {g' : β → α}
    (hg : Function.RightInverse g' g) (h : ∀ a, y = some (g a) ↔ x = some a) : y = x.map g := by
  cases y with
  | some b =>
    rw [(h (g' b)).mp (congrArg some (hg b).symm), Option.map_some, hg b]
  | none =>
    cases x with
    | none => rfl
    | some a => cases (h a).mpr rfl

theorem map_injective {α β : Type} {g : α → β} (hg : Function.Injective g) :
    Function.Injective (List.map g) :=
  fun _ _ h => (List.map_inj_right fun _ _ h => hg h).mp h

end Operator

/-! ## What a decoder accepts -/

namespace Operator

theorem AgentSpec.fromJson_obj {f : String → Option Json} {s : AgentSpec} :
    AgentSpec.fromJson (.obj f) = some s ↔
      field f "image" none string? = some s.image ∧
      field f "state" (some defaultState) AgentState.fromJson = some s.state ∧
      field f "cpu" (some defaultCpu) string? = some s.cpu ∧
      field f "memory" (some defaultMemory) string? = some s.memory ∧
      field f "disk" (some defaultDisk) string? = some s.disk ∧
      field f "volume_mount" (some defaultVolumeMount) string? = some s.volumeMount ∧
      field f "security_profile" (some defaultSecurityProfile) string? = some s.securityProfile ∧
      field f "env" (some []) (seq EnvVar.fromJson) = some s.env ∧
      field f "enable_docker" (some false) bool? = some s.enableDocker ∧
      field f "ports" (some defaultPorts) (seq PortSpec.fromJson) = some s.ports ∧
      field f "command" (some []) (seq string?) = some s.command ∧
      field f "ssh_pubkey" (some none) (opt string?) = some s.sshPubkey ∧
      field f "service_type" (some none) (opt string?) = some s.serviceType ∧
      field f "node_id" (some none) (opt string?) = some s.nodeId := by
  constructor
  · intro h
    obtain ⟨_, h1, h⟩ := Option.bind_eq_some_iff.mp h
    obtain ⟨_, h2, h⟩ := Option.bind_eq_some_iff.mp h
    obtain ⟨_, h3, h⟩ := Option.bind_eq_some_iff.mp h
    obtain ⟨_, h4, h⟩ := Option.bind_eq_some_iff.mp h
    obtain ⟨_, h5, h⟩ := Option.bind_eq_some_iff.mp h
    obtain ⟨_, h6, h⟩ := Option.bind_eq_some_iff.mp h
    obtain ⟨_, h7, h⟩ := Option.bind_eq_some_iff.mp h
    obtain ⟨_, h8, h⟩ := Option.bind_eq_some_iff.mp h
    obtain ⟨_, h9, h⟩ := Option.bind_eq_some_iff.mp h
    obtain ⟨_, h10, h⟩ := Option.bind_eq_some_iff.mp h
    obtain ⟨_, h11, h⟩ := Option.bind_eq_some_iff.mp h
    obtain ⟨_, h12, h⟩ := Option.bind_eq_some_iff.mp h
    obtain ⟨_, h13, h⟩ := Option.bind_eq_some_iff.mp h
    obtain ⟨_, h14, h⟩ := Option.bind_eq_some_iff.mp h
    cases h
    exact ⟨h1, h2, h3, h4, h5, h6, h7, h8, h9, h10, h11, h12, h13, h14⟩
  · rintro ⟨h1, h2, h3, h4, h5, h6, h7, h8, h9, h10, h11, h12, h13, h14⟩
    simp only [AgentSpec.fromJson, h1, h2, h3, h4, h5, h6, h7, h8, h9, h10, h11, h12, h13, h14]
    rfl

theorem AgentStatus.fromJson_obj {f : String → Option Json} {s : AgentStatus} :
    AgentStatus.fromJson (.obj f) = some s ↔
      field f "phase" (some none) (opt string?) = some s.phase ∧
      field f "host_node" (some none) (opt string?) = some s.hostNode ∧
      field f "pod_ip" (some none) (opt string?) = some s.podIp ∧
      field f "ssh_port" (some none) (opt i32?) = some s.sshPort ∧
      field f "restart_count" (some none) (opt i32?) = some s.restartCount ∧
      field f "last_backup" (some none) (opt string?) = some s.lastBackup ∧
      field f "message" (some none) (opt string?) = some s.message ∧
      field f "node_ports" (some []) (seq NodePort.fromJson) = some s.nodePorts := by
  constructor
  · intro h
    obtain ⟨_, h1, h⟩ := Option.bind_eq_some_iff.mp h
    obtain ⟨_, h2, h⟩ := Option.bind_eq_some_iff.mp h
    obtain ⟨_, h3, h⟩ := Option.bind_eq_some_iff.mp h
    obtain ⟨_, h4, h⟩ := Option.bind_eq_some_iff.mp h
    obtain ⟨_, h5, h⟩ := Option.bind_eq_some_iff.mp h
    obtain ⟨_, h6, h⟩ := Option.bind_eq_some_iff.mp h
    obtain ⟨_, h7, h⟩ := Option.bind_eq_some_iff.mp h
    obtain ⟨_, h8, h⟩ := Option.bind_eq_some_iff.mp h
    cases h
    exact ⟨h1, h2, h3, h4, h5, h6, h7, h8⟩
  · rintro ⟨h1, h2, h3, h4, h5, h6, h7, h8⟩
    simp only [AgentStatus.fromJson, h1, h2, h3, h4, h5, h6, h7, h8]
    rfl

end Operator

namespace Api

theorem AgentSpec.fromJson_obj {f : String → Option Json} {s : AgentSpec} :
    AgentSpec.fromJson (.obj f) = some s ↔
      field f "image" none string? = some s.image ∧
      field f "cpu" (some defaultCpu) string? = some s.cpu ∧
      field f "memory" (some defaultMemory) string? = some s.memory ∧
      field f "disk" (some defaultDisk) string? = some s.disk ∧
      field f "state" (some defaultState) AgentState.fromJson = some s.state ∧
      field f "volume_mount" (some defaultVolumeMount) string? = some s.volumeMount ∧
      field f "security_profile" (some defaultSecurityProfile) string? = some s.securityProfile ∧
      field f "env" (some []) (seq EnvVar.fromJson) = some s.env ∧
      field f "enable_docker" (some false) bool? = some s.enableDocker ∧
      field f "ports" (some defaultPorts) (seq PortSpec.fromJson) = some s.ports ∧
      field f "command" (some []) (seq string?) = some s.command ∧
      field f "ssh_pubkey" (some none) (opt string?) = some s.sshPubkey ∧
      field f "service_type" (some none) (opt string?) = some s.serviceType ∧
      field f "node_id" (some none) (opt string?) = some s.nodeId := by
  constructor
  · intro h
    obtain ⟨_, h1, h⟩ := Option.bind_eq_some_iff.mp h
    obtain ⟨_, h2, h⟩ := Option.bind_eq_some_iff.mp h
    obtain ⟨_, h3, h⟩ := Option.bind_eq_some_iff.mp h
    obtain ⟨_, h4, h⟩ := Option.bind_eq_some_iff.mp h
    obtain ⟨_, h5, h⟩ := Option.bind_eq_some_iff.mp h
    obtain ⟨_, h6, h⟩ := Option.bind_eq_some_iff.mp h
    obtain ⟨_, h7, h⟩ := Option.bind_eq_some_iff.mp h
    obtain ⟨_, h8, h⟩ := Option.bind_eq_some_iff.mp h
    obtain ⟨_, h9, h⟩ := Option.bind_eq_some_iff.mp h
    obtain ⟨_, h10, h⟩ := Option.bind_eq_some_iff.mp h
    obtain ⟨_, h11, h⟩ := Option.bind_eq_some_iff.mp h
    obtain ⟨_, h12, h⟩ := Option.bind_eq_some_iff.mp h
    obtain ⟨_, h13, h⟩ := Option.bind_eq_some_iff.mp h
    obtain ⟨_, h14, h⟩ := Option.bind_eq_some_iff.mp h
    cases h
    exact ⟨h1, h2, h3, h4, h5, h6, h7, h8, h9, h10, h11, h12, h13, h14⟩
  · rintro ⟨h1, h2, h3, h4, h5, h6, h7, h8, h9, h10, h11, h12, h13, h14⟩
    simp only [AgentSpec.fromJson, h1, h2, h3, h4, h5, h6, h7, h8, h9, h10, h11, h12, h13, h14]
    rfl

theorem AgentStatus.fromJson_obj {f : String → Option Json} {s : AgentStatus} :
    AgentStatus.fromJson (.obj f) = some s ↔
      field f "phase" (some none) (opt string?) = some s.phase ∧
      field f "host_node" (some none) (opt string?) = some s.hostNode ∧
      field f "pod_ip" (some none) (opt string?) = some s.podIp ∧
      field f "ssh_port" (some none) (opt i32?) = some s.sshPort ∧
      field f "restart_count" (some none) (opt i32?) = some s.restartCount ∧
      field f "last_backup" (some none) (opt string?) = some s.lastBackup ∧
      field f "message" (some none) (opt string?) = some s.message ∧
      field f "node_ports" (some []) (seq NodePort.fromJson) = some s.nodePorts := by
  constructor
  · intro h
    obtain ⟨_, h1, h⟩ := Option.bind_eq_some_iff.mp h
    obtain ⟨_, h2, h⟩ := Option.bind_eq_some_iff.mp h
    obtain ⟨_, h3, h⟩ := Option.bind_eq_some_iff.mp h
    obtain ⟨_, h4, h⟩ := Option.bind_eq_some_iff.mp h
    obtain ⟨_, h5, h⟩ := Option.bind_eq_some_iff.mp h
    obtain ⟨_, h6, h⟩ := Option.bind_eq_some_iff.mp h
    obtain ⟨_, h7, h⟩ := Option.bind_eq_some_iff.mp h
    obtain ⟨_, h8, h⟩ := Option.bind_eq_some_iff.mp h
    cases h
    exact ⟨h1, h2, h3, h4, h5, h6, h7, h8⟩
  · rintro ⟨h1, h2, h3, h4, h5, h6, h7, h8⟩
    simp only [AgentStatus.fromJson, h1, h2, h3, h4, h5, h6, h7, h8]
    rfl

end Api

/-! ## Each crate reads back what it wrote -/

namespace Operator

theorem AgentState.fromJson_toJson (s : AgentState) : AgentState.fromJson s.toJson = some s := by
  cases s <;> rfl

theorem EnvVar.fromJson_toJson (e : EnvVar) : EnvVar.fromJson e.toJson = some e := rfl

theorem PortSpec.fromJson_toJson (p : PortSpec) : PortSpec.fromJson p.toJson = some p := by
  simp [PortSpec.toJson, Json.object, PortSpec.fromJson, field, List.lookup_cons]

theorem NodePort.fromJson_toJson (p : NodePort) : NodePort.fromJson p.toJson = some p := by
  simp [NodePort.toJson, Json.object, NodePort.fromJson, field, List.lookup_cons]

theorem AgentSpec.fromJson_toJson (s : AgentSpec) : AgentSpec.fromJson s.toJson = some s := by
  refine AgentSpec.fromJson_obj.mpr ⟨?_, ?_, ?_, ?_, ?_, ?_, ?_, ?_, ?_, ?_, ?_, ?_, ?_, ?_⟩
  · exact field_present (string?_str _) rfl
  · exact field_present (AgentState.fromJson_toJson s.state) rfl
  · exact field_present (string?_str _) rfl
  · exact field_present (string?_str _) rfl
  · exact field_present (string?_str _) rfl
  · exact field_present (string?_str _) rfl
  · exact field_present (string?_str _) rfl
  · exact field_present (seq_map EnvVar.fromJson_toJson s.env) rfl
  · exact field_present (bool?_bool _) rfl
  · exact field_present (seq_map PortSpec.fromJson_toJson s.ports) rfl
  · exact field_skipEmpty string?_str (Option.join_some ..)
  · exact field_skip opt_string?_str (Option.join_some ..)
  · exact field_skip opt_string?_str (Option.join_some ..)
  · exact field_skip opt_string?_str (Option.join_some ..)

theorem AgentStatus.fromJson_toJson (s : AgentStatus) : AgentStatus.fromJson s.toJson = some s := by
  refine AgentStatus.fromJson_obj.mpr ⟨?_, ?_, ?_, ?_, ?_, ?_, ?_, ?_⟩
  · exact field_ofOption opt_string?_str rfl
  · exact field_skip opt_string?_str (Option.join_some ..)
  · exact field_skip opt_string?_str (Option.join_some ..)
  · exact field_skip opt_i32?_ofI32 (Option.join_some ..)
  · exact field_ofOption opt_i32?_ofI32 rfl
  · exact field_skip opt_string?_str (Option.join_some ..)
  · exact field_skip opt_string?_str (Option.join_some ..)
  · exact field_skipEmpty NodePort.fromJson_toJson (Option.join_some ..)

end Operator

namespace Api

theorem AgentState.fromJson_toJson (s : AgentState) : AgentState.fromJson s.toJson = some s := by
  cases s <;> rfl

theorem EnvVar.fromJson_toJson (e : EnvVar) : EnvVar.fromJson e.toJson = some e := rfl

theorem PortSpec.fromJson_toJson (p : PortSpec) : PortSpec.fromJson p.toJson = some p := by
  simp [PortSpec.toJson, Json.object, PortSpec.fromJson, field, List.lookup_cons]

theorem NodePort.fromJson_toJson (p : NodePort) : NodePort.fromJson p.toJson = some p := by
  simp [NodePort.toJson, Json.object, NodePort.fromJson, field, List.lookup_cons]

theorem AgentSpec.fromJson_toJson (s : AgentSpec) : AgentSpec.fromJson s.toJson = some s := by
  refine AgentSpec.fromJson_obj.mpr ⟨?_, ?_, ?_, ?_, ?_, ?_, ?_, ?_, ?_, ?_, ?_, ?_, ?_, ?_⟩
  · exact field_present (string?_str _) rfl
  · exact field_present (string?_str _) rfl
  · exact field_present (string?_str _) rfl
  · exact field_present (string?_str _) rfl
  · exact field_present (AgentState.fromJson_toJson s.state) rfl
  · exact field_present (string?_str _) rfl
  · exact field_present (string?_str _) rfl
  · exact field_present (seq_map EnvVar.fromJson_toJson s.env) rfl
  · exact field_present (bool?_bool _) rfl
  · exact field_present (seq_map PortSpec.fromJson_toJson s.ports) rfl
  · exact field_skipEmpty string?_str (Option.join_some ..)
  · exact field_skip opt_string?_str (Option.join_some ..)
  · exact field_skip opt_string?_str (Option.join_some ..)
  · exact field_skip opt_string?_str (Option.join_some ..)

theorem AgentStatus.fromJson_toJson (s : AgentStatus) : AgentStatus.fromJson s.toJson = some s := by
  refine AgentStatus.fromJson_obj.mpr ⟨?_, ?_, ?_, ?_, ?_, ?_, ?_, ?_⟩
  · exact field_ofOption opt_string?_str rfl
  · exact field_skip opt_string?_str (Option.join_some ..)
  · exact field_skip opt_string?_str (Option.join_some ..)
  · exact field_skip opt_i32?_ofI32 (Option.join_some ..)
  · exact field_ofOption opt_i32?_ofI32 rfl
  · exact field_skip opt_string?_str (Option.join_some ..)
  · exact field_skip opt_string?_str (Option.join_some ..)
  · exact field_skipEmpty NodePort.fromJson_toJson (Option.join_some ..)

end Api

/-! ## The two decoders agree -/

namespace Operator

theorem AgentState.api_fromJson (v : Json) :
    Api.AgentState.fromJson v = (AgentState.fromJson v).map AgentState.toApi := by
  cases v with
  | str s =>
    simp only [Api.AgentState.fromJson, AgentState.fromJson]
    split
    · rfl
    · split <;> rfl
  | _ => rfl

theorem EnvVar.api_fromJson (v : Json) :
    Api.EnvVar.fromJson v = (EnvVar.fromJson v).map EnvVar.toApi := by
  cases v with
  | obj f =>
    simp only [Api.EnvVar.fromJson, EnvVar.fromJson, Option.bind_eq_bind, Option.map_bind,
      Function.comp_def]
    rfl
  | arr xs =>
    rcases xs with _ | ⟨name, _ | ⟨value, _ | ⟨extra, rest⟩⟩⟩
    · rfl
    · rfl
    · simp only [Api.EnvVar.fromJson, EnvVar.fromJson, Option.bind_eq_bind, Option.map_bind,
        Function.comp_def]
      rfl
    · rfl
  | _ => rfl

theorem PortSpec.api_fromJson (v : Json) :
    Api.PortSpec.fromJson v = (PortSpec.fromJson v).map PortSpec.toApi := by
  cases v with
  | obj f =>
    simp only [Api.PortSpec.fromJson, PortSpec.fromJson, Option.bind_eq_bind, Option.map_bind,
      Function.comp_def]
    rfl
  | arr xs =>
    rcases xs with _ | ⟨name, _ | ⟨value, _ | ⟨extra, rest⟩⟩⟩
    · rfl
    · rfl
    · simp only [Api.PortSpec.fromJson, PortSpec.fromJson, Option.bind_eq_bind, Option.map_bind,
        Function.comp_def]
      rfl
    · rfl
  | _ => rfl

theorem NodePort.api_fromJson (v : Json) :
    Api.NodePort.fromJson v = (NodePort.fromJson v).map NodePort.toApi := by
  cases v with
  | obj f =>
    simp only [Api.NodePort.fromJson, NodePort.fromJson, Option.bind_eq_bind, Option.map_bind,
      Function.comp_def]
    rfl
  | arr xs =>
    rcases xs with _ | ⟨name, _ | ⟨port, _ | ⟨nodePort, _ | ⟨extra, rest⟩⟩⟩⟩
    · rfl
    · rfl
    · rfl
    · simp only [Api.NodePort.fromJson, NodePort.fromJson, Option.bind_eq_bind, Option.map_bind,
        Function.comp_def]
      rfl
    · rfl
  | _ => rfl

section Object

variable (f : String → Option Json)

/-- The members that have a type of the crate's own: one decodes where the other does. -/
theorem AgentSpec.api_fromJson_obj (s : AgentSpec) :
    Api.AgentSpec.fromJson (.obj f) = some s.toApi ↔ AgentSpec.fromJson (.obj f) = some s := by
  have hstate := field_comp_iff AgentState.toApi_injective AgentState.api_fromJson f "state"
    (some defaultState) s.state
  have henv := field_comp_iff (map_injective EnvVar.toApi_injective) (seq_comp EnvVar.api_fromJson)
    f "env" (some []) s.env
  have hports := field_comp_iff (map_injective PortSpec.toApi_injective)
    (seq_comp PortSpec.api_fromJson) f "ports" (some defaultPorts) s.ports
  rw [Api.AgentSpec.fromJson_obj, AgentSpec.fromJson_obj]
  constructor
  · rintro ⟨h1, h2, h3, h4, h5, h6, h7, h8, h9, h10, h11⟩
    exact ⟨h1, hstate.mp h5, h2, h3, h4, h6, h7, henv.mp h8, h9, hports.mp h10, h11⟩
  · rintro ⟨h1, h2, h3, h4, h5, h6, h7, h8, h9, h10, h11⟩
    exact ⟨h1, h3, h4, h5, hstate.mpr h2, h6, h7, henv.mpr h8, h9, hports.mpr h10, h11⟩

theorem AgentStatus.api_fromJson_obj (s : AgentStatus) :
    Api.AgentStatus.fromJson (.obj f) = some s.toApi ↔ AgentStatus.fromJson (.obj f) = some s := by
  have hports := field_comp_iff (map_injective NodePort.toApi_injective)
    (seq_comp NodePort.api_fromJson) f "node_ports" (some []) s.nodePorts
  rw [Api.AgentStatus.fromJson_obj, AgentStatus.fromJson_obj]
  constructor
  · rintro ⟨h1, h2, h3, h4, h5, h6, h7, h8⟩
    exact ⟨h1, h2, h3, h4, h5, h6, h7, hports.mp h8⟩
  · rintro ⟨h1, h2, h3, h4, h5, h6, h7, h8⟩
    exact ⟨h1, h2, h3, h4, h5, h6, h7, hports.mpr h8⟩

theorem AgentSpec.api_fromJson_eq :
    Api.AgentSpec.fromJson (.obj f) = (AgentSpec.fromJson (.obj f)).map AgentSpec.toApi :=
  eq_map_of_iff Api.AgentSpec.toApi_toOperator (AgentSpec.api_fromJson_obj f)

theorem AgentStatus.api_fromJson_eq :
    Api.AgentStatus.fromJson (.obj f) = (AgentStatus.fromJson (.obj f)).map AgentStatus.toApi :=
  eq_map_of_iff Api.AgentStatus.toApi_toOperator (AgentStatus.api_fromJson_obj f)

end Object

theorem AgentStatus.api_fromStored (v : Option Json) :
    Api.AgentStatus.fromStored v =
      (AgentStatus.fromStored v).map (Option.map AgentStatus.toApi) := by
  cases v with
  | none => rfl
  | some v =>
    cases v with
    | obj f =>
      show (Api.AgentStatus.fromJson (.obj f)).map some = _
      rw [AgentStatus.api_fromJson_eq]
      show _ = ((AgentStatus.fromJson (.obj f)).map some).map _
      cases AgentStatus.fromJson (.obj f) <;> rfl
    | _ => rfl

theorem AgentStatus.api_fromStored_some {v : Option Json} {status : AgentStatus}
    (h : AgentStatus.fromStored v = some (some status)) :
    Api.AgentStatus.fromStored v = some (some status.toApi) := by
  rw [AgentStatus.api_fromStored, h]
  rfl

theorem AgentSpec.fromJson_of_api {v : Json} {s : Api.AgentSpec}
    (h : Api.AgentSpec.fromJson v = some s) : AgentSpec.fromJson v = some s.toOperator := by
  cases v with
  | obj f =>
    apply (AgentSpec.api_fromJson_obj f _).mp
    rw [Api.AgentSpec.toApi_toOperator]
    exact h
  | _ => cases h

theorem AgentStatus.fromJson_of_api {v : Json} {s : Api.AgentStatus}
    (h : Api.AgentStatus.fromJson v = some s) : AgentStatus.fromJson v = some s.toOperator := by
  cases v with
  | obj f =>
    apply (AgentStatus.api_fromJson_obj f _).mp
    rw [Api.AgentStatus.toApi_toOperator]
    exact h
  | _ => cases h

/-- One format: each crate reads what the other wrote as the same value, and on every JSON object
the two decoders both refuse or both give the same value. -/
theorem crd_copies_agree :
    (∀ s : Api.AgentSpec, AgentSpec.fromJson s.toJson = some s.toOperator) ∧
    (∀ s : AgentSpec, Api.AgentSpec.fromJson s.toJson = some s.toApi) ∧
    (∀ s : Api.AgentStatus, AgentStatus.fromJson s.toJson = some s.toOperator) ∧
    (∀ s : AgentStatus, Api.AgentStatus.fromJson s.toJson = some s.toApi) ∧
    (∀ f, Api.AgentSpec.fromJson (.obj f) = (AgentSpec.fromJson (.obj f)).map AgentSpec.toApi) ∧
    (∀ f, Api.AgentStatus.fromJson (.obj f) =
      (AgentStatus.fromJson (.obj f)).map AgentStatus.toApi) := by
  refine ⟨?_, ?_, ?_, ?_, AgentSpec.api_fromJson_eq, AgentStatus.api_fromJson_eq⟩
  · intro s
    exact AgentSpec.fromJson_of_api (Api.AgentSpec.fromJson_toJson s)
  · intro s
    exact (AgentSpec.api_fromJson_obj _ s).mpr (AgentSpec.fromJson_toJson s)
  · intro s
    exact AgentStatus.fromJson_of_api (Api.AgentStatus.fromJson_toJson s)
  · intro s
    exact (AgentStatus.api_fromJson_obj _ s).mpr (AgentStatus.fromJson_toJson s)

end Operator

end AgentHosting
