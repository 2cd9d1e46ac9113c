import AgentHosting.Api.Error
import AgentHosting.Api.Sse

/-!
# AgentHosting.Api.Handlers

The lifecycle handlers of `api/src/handlers.rs`. A handler is a program of API calls that answers
an error or a stream; the stream is the function of `Api.Sse` that its polling computes.
-/

namespace AgentHosting
namespace Api

open Kube Json

/-- A handler: its calls, ending in an `AppError` or a value. -/
abbrev Handler (α : Type) := ExceptT AppError (Prog Call Answer) α

/-- What a streaming handler returns: the stream, given the clock when it is first polled and the
polls answered so far. -/
abbrev Stream := Instant → List Poll → StreamRun

/-- The `?` on a client call: its error becomes `AppError::KubeError`. -/
def fromKube {α : Type} (p : Prog Call Answer (Except KubeError α)) : Handler α :=
  ExceptT.mk (p.bind fun
    | .ok a => .ret (.ok a)
    | .error e => .ret (.error (.kubeError e)))

/-- Decoding what the API server sent; serde's error text is not modelled. -/
def decodeAgent (o : AgentObject) : Except KubeError Agent :=
  match AgentSpec.fromJson o.spec, AgentStatus.fromStored o.status with
  | some spec, some status => .ok ⟨o.metadata, spec, status⟩
  | _, _ => .error ⟨none, "Error deserializing response"⟩

theorem decodeAgent_ok {o : AgentObject} {agent : Agent} :
    decodeAgent o = .ok agent ↔ agent.metadata = o.metadata ∧
      AgentSpec.fromJson o.spec = some agent.spec ∧
      AgentStatus.fromStored o.status = some agent.status := by
  unfold decodeAgent
  constructor
  · intro h
    split at h
    · rename_i spec status hspec hstatus
      obtain rfl := Except.ok.inj h
      exact ⟨rfl, hspec, hstatus⟩
    · cases h
  · rintro ⟨hmetadata, hspec, hstatus⟩
    rw [hspec, hstatus, ← hmetadata]

def decodeAnswer : Except KubeError (Option AgentObject) → Except KubeError (Option Agent)
  | .ok (some o) => (decodeAgent o).map some
  | .ok none => .ok none
  | .error e => .error e

/-- `Api::<Agent>::get_opt`. -/
def getOptAgent (name : String) : Prog Call Answer (Except KubeError (Option Agent)) :=
  (request (.getAgent name)).bind fun r => .ret (decodeAnswer r)

def instanceNotFound (name : String) : AppError :=
  .notFound ("instance '" ++ name ++ "' not found")

/-- The check every handler of an existing instance starts with. -/
def requireAgent (name : String) : Handler Agent := do
  match ← fromKube (getOptAgent name) with
  | some agent => pure agent
  | none => throw (instanceNotFound name)

/-! ## Create -/

structure CreateInstanceRequest where
  nearaiApiKey : Option String := none
  nearaiApiUrl : Option String := none
  image : String
  serviceType : Option String := none
  memLimit : Option String := none
  cpus : Option String := none
  storageSize : Option String := none
  sshPubkey : Option String := none
  nodeId : Option String := none
  name : Option String := none
  cpu : Option String := none
  memory : Option String := none
  disk : Option String := none
  volumeMount : Option String := none
  securityProfile : Option String := none
  env : List EnvVar := []
  ports : List PortSpec := []
  enableDocker : Bool := false
  command : List String := []

/-- The body of a create request; as everywhere a struct is read from an object. -/
def CreateInstanceRequest.fromJson : Json → Option CreateInstanceRequest
  | .obj f => do
    let nearaiApiKey ← field f "nearai_api_key" (some none) (opt string?)
    let nearaiApiUrl ← field f "nearai_api_url" (some none) (opt string?)
    let image ← field f "image" none string?
    let serviceType ← field f "service_type" (some none) (opt string?)
    let memLimit ← field f "mem_limit" (some none) (opt string?)
    let cpus ← field f "cpus" (some none) (opt string?)
    let storageSize ← field f "storage_size" (some none) (opt string?)
    let sshPubkey ← field f "ssh_pubkey" (some none) (opt string?)
    let nodeId ← field f "node_id" (some none) (opt string?)
    let name ← field f "name" (some none) (opt string?)
    let cpu ← field f "cpu" (some none) (opt string?)
    let memory ← field f "memory" (some none) (opt string?)
    let disk ← field f "disk" (some none) (opt string?)
    let volumeMount ← field f "volume_mount" (some none) (opt string?)
    let securityProfile ← field f "security_profile" (some none) (opt string?)
    let env ← field f "env" (some []) (seq EnvVar.fromJson)
    let ports ← field f "ports" (some []) (seq PortSpec.fromJson)
    let enableDocker ← field f "enable_docker" (some false) bool?
    let command ← field f "command" (some []) (seq string?)
    return { nearaiApiKey, nearaiApiUrl, image, serviceType, memLimit, cpus, storageSize,
             sshPubkey, nodeId, name, cpu, memory, disk, volumeMount, securityProfile, env, ports,
             enableDocker, command }
  | _ => none

theorem CreateInstanceRequest.fromJson_obj {f : String → Option Json} {r : CreateInstanceRequest}
    (nearaiApiKey : field f "nearai_api_key" (some none) (opt string?) = some r.nearaiApiKey)
    (nearaiApiUrl : field f "nearai_api_url" (some none) (opt string?) = some r.nearaiApiUrl)
    (image : field f "image" none string? = some r.image)
    (serviceType : field f "service_type" (some none) (opt string?) = some r.serviceType)
    (memLimit : field f "mem_limit" (some none) (opt string?) = some r.memLimit)
    (cpus : field f "cpus" (some none) (opt string?) = some r.cpus)
    (storageSize : field f "storage_size" (some none) (opt string?) = some r.storageSize)
    (sshPubkey : field f "ssh_pubkey" (some none) (opt string?) = some r.sshPubkey)
    (nodeId : field f "node_id" (some none) (opt string?) = some r.nodeId)
    (name : field f "name" (some none) (opt string?) = some r.name)
    (cpu : field f "cpu" (some none) (opt string?) = some r.cpu)
    (memory : field f "memory" (some none) (opt string?) = some r.memory)
    (disk : field f "disk" (some none) (opt string?) = some r.disk)
    (volumeMount : field f "volume_mount" (some none) (opt string?) = some r.volumeMount)
    (securityProfile : field f "security_profile" (some none) (opt string?) =
      some r.securityProfile)
    (env : field f "env" (some []) (seq EnvVar.fromJson) = some r.env)
    (ports : field f "ports" (some []) (seq PortSpec.fromJson) = some r.ports)
    (enableDocker : field f "enable_docker" (some false) bool? = some r.enableDocker)
    (command : field f "command" (some []) (seq string?) = some r.command) :
    CreateInstanceRequest.fromJson (.obj f) = some r := by
  simp only [fromJson, nearaiApiKey, nearaiApiUrl, image, serviceType, memLimit, cpus, storageSize,
    sshPubkey, nodeId, name, cpu, memory, disk, volumeMount, securityProfile, env, ports,
    enableDocker, command]
  rfl

/-- `str::ends_with`. -/
def endsWith (s suffix : String) : Bool := suffix.toList.isSuffixOf s.toList

/-- Normalize memory and storage strings: a bare `G` or `M` suffix gets its `i`. -/
def normalizeResource (s : String) : String :=
  if endsWith s "G" && !endsWith s "Gi" then s ++ "i"
  else if endsWith s "M" && !endsWith s "Mi" then s ++ "i"
  else s

def requestedSpec (req : CreateInstanceRequest) : AgentSpec where
  image := req.image
  cpu := (req.cpus.or req.cpu).getD "1"
  memory := ((req.memLimit.map normalizeResource).or req.memory).getD "4Gi"
  disk := ((req.storageSize.map normalizeResource).or req.disk).getD "10Gi"
  state := .running
  volumeMount := req.volumeMount.getD
    (if req.serviceType.isSome then "/workspace" else "/home/agent")
  securityProfile := req.securityProfile.getD "trusted"
  env := req.env ++ (req.nearaiApiKey.map fun key => ⟨"NEARAI_API_KEY", key⟩).toList ++
    (req.nearaiApiUrl.map fun url => ⟨"NEARAI_API_URL", url⟩).toList
  enableDocker := req.enableDocker
  command := req.command
  sshPubkey := req.sshPubkey
  serviceType := req.serviceType
  nodeId := req.nodeId
  ports :=
    if req.ports.isEmpty then
      if req.serviceType.isSome then [⟨"ssh", 2222⟩, ⟨"http", 8080⟩]
      else [⟨"ssh", 22⟩, ⟨"http", 80⟩]
    else req.ports

def nameData (name : String) : Json := Json.object [("name", .str name)]

/-- Poll until the target status, then report it; the report follows however the polling ended. -/
def pollThenReport (before : List SseEvent) (target report : String) (timeoutSecs : Nat)
    (name : String) : Stream := fun start polls =>
  (pollStatusStream target (fromSecs timeoutSecs) start polls).around before
    (sseEvent report (nameData name))

def createInstanceStream (name : String) : Stream :=
  pollThenReport [sseEvent "created" (nameData name)] "running" "ready" 600 name

/-- `uuid` is the random UUID a nameless request would draw. -/
def createInstance (uuid : String) (req : CreateInstanceRequest) : Handler Stream := do
  if req.name.isNone ∧ req.serviceType.isNone then
    throw (.badRequest "missing required field: service_type")
  let name := req.name.getD (String.ofList (uuid.toList.take 8))
  match ← fromKube (getOptAgent name) with
  | some _ => throw (.conflict ("instance '" ++ name ++ "' already exists"))
  | none =>
    fromKube (request (.createAgent ⟨{ name := some name }, (requestedSpec req).toJson, none⟩))
    pure (createInstanceStream name)

/-! ## Start, stop, restart -/

def statePatch (state : String) : Json :=
  Json.object [("spec", Json.object [("state", .str state)])]

def startInstanceStream (name : String) : Stream := pollThenReport [] "running" "ready" 600 name

def startInstance (name : String) : Handler Stream := do
  let _ ← requireAgent name
  fromKube (request (.patchAgent name (statePatch "running")))
  pure (startInstanceStream name)

def stopInstanceStream (name : String) : Stream := pollThenReport [] "stopped" "stopped" 120 name

def stopInstance (name : String) : Handler Stream := do
  let _ ← requireAgent name
  fromKube (request (.patchAgent name (statePatch "stopped")))
  pure (stopInstanceStream name)

/-- The stream sleeps three seconds before its first clock reading. -/
def restartInstanceStream (name : String) : Stream := pollThenReport [] "running" "ready" 600 name

def restartInstance (name : String) : Handler Stream := do
  let _ ← requireAgent name
  -- the outcome of the delete is dropped
  let _ ← ExceptT.lift (request (.delete .pod ("agent-" ++ name)))
  pure (restartInstanceStream name)

/-! ## Delete -/

/-- The loop of `delete_instance` after an accepted delete. -/
def deletionLoop (name : String) (deadline : Instant) : List Poll → StreamRun
  | [] => ⟨[], 0, false⟩
  | p :: polls =>
    if p.now > deadline then ⟨[sseError "timeout waiting for deletion"], 0, true⟩
    else
      match p.answer with
      | .ok none => ⟨[sseEvent "deleted" (nameData name)], 1, true⟩
      | .ok (some _) => (deletionLoop name deadline polls).emit
          (sseEvent "status" (Json.object [("status", .str "deleting")]))
      | .error _ => (deletionLoop name deadline polls).quiet

def errorStream (message : String) : Stream := fun _ _ => ⟨[sseError message], 0, true⟩

/-- The handler always answers a stream; its calls are made as the stream runs. -/
def deleteInstance (name : String) : Prog Call Answer Stream :=
  (getOptAgent name).bind fun
    | .ok (some _) => (request (.deleteAgent name)).bind fun
      | .ok () => .ret fun start polls => deletionLoop name (start + fromSecs 60) polls
      | .error e => .ret (errorStream ("delete failed: " ++ e.text))
    | .ok none => .ret (errorStream ("instance '" ++ name ++ "' not found"))
    | .error e => .ret (errorStream ("error: " ++ e.text))

/-! ## Requests -/

/-- The lifecycle requests; `uuid` is what a nameless create would draw. -/
inductive Request where
  | create (uuid : String) (req : CreateInstanceRequest)
  | start (name : String)
  | stop (name : String)
  | restart (name : String)
  | delete (name : String)

namespace Request

def name : Request → String
  | .create uuid req => req.name.getD (String.ofList (uuid.toList.take 8))
  | .start name | .stop name | .restart name | .delete name => name

/-- What comes before the polling; a delete has it in its stream. -/
def handler : Request → Prog Call Answer (Except AppError Stream)
  | .create uuid req => (createInstance uuid req).run
  | .start name => (startInstance name).run
  | .stop name => (stopInstance name).run
  | .restart name => (restartInstance name).run
  | .delete name => (deleteInstance name).bind fun stream => .ret (.ok stream)

end Request

/-- A stream at work: its turns, one for each clock reading, until it ends. A turn that is past the
deadline does not look at the answer it is given. -/
def watch (stream : Stream) (name : String) (start : Instant) :
    List Instant → List Poll → Prog Call Answer StreamRun
  | [], polls => .ret (stream start polls)
  | now :: clock, polls =>
    if (stream start polls).finished then .ret (stream start polls)
    else (getOptAgent name).bind fun answer =>
      watch stream name start clock (polls ++ [⟨now, answer⟩])

end Api
end AgentHosting
