import Mathlib.Data.List.Forall2
import AgentHosting.Api.Responses

/-!
# AgentHosting.Cli.Main

The command line client of `cli/src/main.rs`: what it decodes, what it prints, and where its
`unwrap` panics. It shares no type with the API server; the two meet as JSON.

* `Command.receive` — an answered command, from the response to the text it prints.
* `Exchange` — the JSON answers the API gives, each with the command that reads it.
* `exchange_decoded_iff` — the only one of them the client can decode is the empty list.
-/

namespace AgentHosting
namespace Cli

open Json Api

/-! ## Decoders -/

structure NodePortInfo where
  name : String
  port : Int32
  nodePort : Int32

structure Instance where
  name : String
  image : String
  cpu : String
  memory : String
  disk : String
  state : String
  phase : Option String
  podIp : Option String
  hostNode : Option String
  restartCount : Option Int32
  nodePorts : List NodePortInfo

structure LogsResponse where
  name : String
  lines : List String

structure ErrorDetail where
  message : String

structure ErrorResponse where
  error : ErrorDetail

def NodePortInfo.fromJson : Json → Option NodePortInfo
  | .obj f => do
    let name ← field f "name" none string?
    let port ← field f "port" none i32?
    let nodePort ← field f "node_port" none i32?
    return ⟨name, port, nodePort⟩
  | .arr [name, port, nodePort] => do
    let name ← string? name
    let port ← i32? port
    let nodePort ← i32? nodePort
    return ⟨name, port, nodePort⟩
  | _ => none

/-- serde also takes a struct as the array of its fields; here the last one may be left out. -/
def Instance.fromJson : Json → Option Instance
  | .obj f => do
    let name ← field f "name" none string?
    let image ← field f "image" none string?
    let cpu ← field f "cpu" none string?
    let memory ← field f "memory" none string?
    let disk ← field f "disk" none string?
    let state ← field f "state" none string?
    let phase ← field f "phase" (some none) (opt string?)
    let podIp ← field f "pod_ip" (some none) (opt string?)
    let hostNode ← field f "host_node" (some none) (opt string?)
    let restartCount ← field f "restart_count" (some none) (opt i32?)
    let nodePorts ← field f "node_ports" (some []) (seq NodePortInfo.fromJson)
    return { name, image, cpu, memory, disk, state, phase, podIp, hostNode, restartCount,
             nodePorts }
  | .arr (name :: image :: cpu :: memory :: disk :: state :: phase :: podIp :: hostNode ::
      restartCount :: rest) => do
    let name ← string? name
    let image ← string? image
    let cpu ← string? cpu
    let memory ← string? memory
    let disk ← string? disk
    let state ← string? state
    let phase ← opt string? phase
    let podIp ← opt string? podIp
    let hostNode ← opt string? hostNode
    let restartCount ← opt i32? restartCount
    let nodePorts ← match rest with
      | [] => some []
      | [v] => seq NodePortInfo.fromJson v
      | _ => none
    return { name, image, cpu, memory, disk, state, phase, podIp, hostNode, restartCount,
             nodePorts }
  | _ => none

def LogsResponse.fromJson : Json → Option LogsResponse
  | .obj f => do
    let name ← field f "name" none string?
    let lines ← field f "lines" none (seq string?)
    return ⟨name, lines⟩
  | .arr [name, lines] => do
    let name ← string? name
    let lines ← seq string? lines
    return ⟨name, lines⟩
  | _ => none

def ErrorDetail.fromJson : Json → Option ErrorDetail
  | .obj f => do
    let message ← field f "message" none string?
    return ⟨message⟩
  | .arr [message] => do
    let message ← string? message
    return ⟨message⟩
  | _ => none

def ErrorResponse.fromJson : Json → Option ErrorResponse
  | .obj f => do
    let error ← field f "error" none ErrorDetail.fromJson
    return ⟨error⟩
  | .arr [error] => do
    let error ← ErrorDetail.fromJson error
    return ⟨error⟩
  | _ => none

/-! ## Printing -/

/-- `{:<n}`: padded on the right to `n` characters. -/
def padRight (n : Nat) (s : String) : String :=
  s ++ String.ofList (List.replicate (n - s.length) ' ')

def printInstance (inst : Instance) : List String :=
  ["Name:          " ++ inst.name,
   "Image:         " ++ inst.image,
   "State:         " ++ inst.state,
   "Phase:         " ++ inst.phase.getD "-",
   "CPU:           " ++ inst.cpu,
   "Memory:        " ++ inst.memory,
   "Disk:          " ++ inst.disk,
   "Pod IP:        " ++ inst.podIp.getD "-",
   "Host Node:     " ++ inst.hostNode.getD "-",
   "Restart Count: " ++ (inst.restartCount.map fun c => toString c.toInt).getD "-"] ++
  if inst.nodePorts.isEmpty then []
  else "Ports:" :: inst.nodePorts.map fun np =>
    "  " ++ np.name ++ ":" ++ toString np.port.toInt ++ " → NodePort " ++ toString np.nodePort.toInt

def row (name image state phase cpu memory disk : String) : String :=
  " ".intercalate [padRight 20 name, padRight 45 image, padRight 10 state, padRight 15 phase,
    padRight 6 cpu, padRight 8 memory, padRight 8 disk]

def printInstanceRow (inst : Instance) : String :=
  row inst.name inst.image inst.state (inst.phase.getD "-") inst.cpu inst.memory inst.disk

def printInstances (instances : List Instance) : List String :=
  if instances.isEmpty then ["No instances found."]
  else row "NAME" "IMAGE" "STATE" "PHASE" "CPU" "MEMORY" "DISK" :: instances.map printInstanceRow

def printLogs (logs : LogsResponse) : List String :=
  if logs.lines.isEmpty then ["No logs for '" ++ logs.name ++ "'."] else logs.lines

/-! ## Commands -/

/-- A command whose request has been sent; `delete` still needs the name it was given. -/
inductive Command where
  | health
  | create
  | list
  | get
  | delete (name : String)
  | start
  | stop
  | restart
  | logs

inductive Outcome where
  | printed (lines : List String)
  | printedJson (body : Json)
  /-- A line on standard error. -/
  | failed (line : String)
  | panicked

/-- `r.json().await.unwrap()`, then print. -/
def unwrapThen {α : Type} (decoded : Option α) (print : α → List String) : Outcome :=
  match decoded with
  | some a => .printed (print a)
  | none => .panicked

/-- What a command does with the body of a successful answer. -/
def Command.success (body : Json) : Command → Outcome
  | .health => .printedJson body
  | .create => unwrapThen (Instance.fromJson body) fun i => "Created instance:" :: printInstance i
  | .list => unwrapThen (seq Instance.fromJson body) printInstances
  | .get => unwrapThen (Instance.fromJson body) printInstance
  | .delete name => .printed ["Deleted instance '" ++ name ++ "'."]
  | .start => unwrapThen (Instance.fromJson body) fun i => "Started instance:" :: printInstance i
  | .stop => unwrapThen (Instance.fromJson body) fun i => "Stopped instance:" :: printInstance i
  | .restart =>
    unwrapThen (Instance.fromJson body) fun i => "Restarted instance:" :: printInstance i
  | .logs => unwrapThen (LogsResponse.fromJson body) printLogs

section Receive

-- how `reqwest::StatusCode` displays, such as `404 Not Found`
variable (statusText : Nat → String)

def handleError (resp : Response) : String :=
  match ErrorResponse.fromJson resp.body with
  | some err => "Error (" ++ statusText resp.status ++ "): " ++ err.error.message
  | none => "Error: " ++ statusText resp.status

def Command.receive (c : Command) (resp : Response) : Outcome :=
  if 200 ≤ resp.status ∧ resp.status < 300 then c.success resp.body
  else .failed (handleError statusText resp)

end Receive

/-! ## What the decoders ask for -/

/-- The four members without a default that an instance must have beyond its name and image. -/
theorem Instance.fromJson_cpu_absent {f : String → Option Json} (h : f "cpu" = none) :
    Instance.fromJson (.obj f) = none := by
  have hcpu : field f "cpu" none string? = none := by simp only [field, h]
  simp only [Instance.fromJson, hcpu]
  cases field f "name" none string? with
  | none => rfl
  | some name => cases field f "image" none string? <;> rfl

theorem LogsResponse.fromJson_lines_absent {f : String → Option Json} (h : f "lines" = none) :
    LogsResponse.fromJson (.obj f) = none := by
  have hlines : field f "lines" none (seq string?) = none := by simp only [field, h]
  simp only [LogsResponse.fromJson, hlines]
  cases field f "name" none string? <;> rfl

theorem ErrorResponse.fromJson_flat {f : String → Option Json} {message : String}
    (h : f "error" = some (.str message)) : ErrorResponse.fromJson (.obj f) = none := by
  simp only [ErrorResponse.fromJson, field, h, ErrorDetail.fromJson]
  rfl

/-- The decoded instance is the one that was encoded, as far as both have the fields. -/
structure Instance.Shows (inst : Instance) (r : InstanceResponse) : Prop where
  name : inst.name = r.name
  image : inst.image = r.image
  podIp : inst.podIp = r.podIp
  hostNode : inst.hostNode = r.hostNode
  restartCount : inst.restartCount = r.restartCount
  nodePorts : inst.nodePorts = r.nodePorts.map fun p => ⟨p.name, p.port, p.nodePort⟩

/-! ## Exchanges -/

/-- A JSON answer of the API server and the command that reads it. -/
inductive Exchange where
  | get (agent : Agent)
  | list (agents : List Agent)
  | logs (name text : String)
  | failed (c : Command) (err : AppError)

namespace Exchange

def command : Exchange → Command
  | .get _ => .get
  | .list _ => .list
  | .logs _ _ => .logs
  | .failed c _ => c

def response : Exchange → Response
  | .get agent => respond InstanceResponse.toJson (.ok (.ofAgent agent))
  | .list agents =>
    respond (fun rs => .arr (rs.map InstanceResponse.toJson)) (.ok (agents.map .ofAgent))
  | .logs name text => respond id (.ok (logsBody name text))
  | .failed _ err => respond InstanceResponse.toJson (.error err)

/-- The client's decoder takes the body, and what it reads is what was encoded. -/
def Decoded (x : Exchange) : Prop :=
  match x with
  | .get agent => ∃ inst, Instance.fromJson x.response.body = some inst ∧
      inst.Shows (.ofAgent agent)
  | .list agents => ∃ insts, seq Instance.fromJson x.response.body = some insts ∧
      List.Forall₂ Instance.Shows insts (agents.map .ofAgent)
  | .logs name text => ∃ logs, LogsResponse.fromJson x.response.body = some logs ∧
      logs.name = name ∧ "\n".intercalate logs.lines = text
  | .failed _ err => ∃ e, ErrorResponse.fromJson x.response.body = some e ∧
      e.error.message = err.message

end Exchange

theorem Instance.fromJson_response (r : InstanceResponse) : Instance.fromJson r.toJson = none :=
  Instance.fromJson_cpu_absent rfl

theorem Instance.seq_fromJson_response (rs : List InstanceResponse) :
    seq Instance.fromJson (.arr (rs.map InstanceResponse.toJson)) =
      if rs = [] then some [] else none := by
  cases rs with
  | nil => rfl
  | cons r rs =>
    simp only [seq, List.map_cons, List.mapM_cons, Instance.fromJson_response]
    rfl

theorem LogsResponse.fromJson_logsBody (name text : String) :
    LogsResponse.fromJson (logsBody name text) = none :=
  LogsResponse.fromJson_lines_absent rfl

theorem ErrorResponse.fromJson_intoResponse (err : AppError) :
    ErrorResponse.fromJson err.intoResponse.body = none := by
  rw [AppError.intoResponse_body]
  exact ErrorResponse.fromJson_flat rfl

/-- Every error is shown without its message. -/
theorem handleError_intoResponse (statusText : Nat → String) (err : AppError) :
    handleError statusText err.intoResponse = "Error: " ++ statusText err.intoResponse.status := by
  simp only [handleError, ErrorResponse.fromJson_intoResponse]

theorem Command.receive_ok (statusText : Nat → String) (c : Command) (body : Json) :
    c.receive statusText ⟨200, body⟩ = c.success body := if_pos (by simp)

theorem unwrapThen_panicked {α : Type} {decoded : Option α} (print : α → List String) :
    unwrapThen decoded print = .panicked ↔ decoded = none := by
  cases decoded <;> simp [unwrapThen]

namespace Exchange

theorem decoded_iff (x : Exchange) : x.Decoded ↔ x = .list [] := by
  constructor
  · intro h
    cases x with
    | get agent =>
      obtain ⟨inst, hinst, -⟩ := h
      exact absurd ((Instance.fromJson_response (.ofAgent agent)).symm.trans hinst) (by simp)
    | list agents =>
      obtain ⟨insts, hinsts, -⟩ := h
      have hseq := (Instance.seq_fromJson_response (agents.map .ofAgent)).symm.trans hinsts
      split at hseq
      · next hnil => rw [List.map_eq_nil_iff.mp hnil]
      · nomatch hseq
    | logs name text =>
      obtain ⟨logs, hlogs, -⟩ := h
      exact absurd ((LogsResponse.fromJson_logsBody name text).symm.trans hlogs) (by simp)
    | failed c err =>
      obtain ⟨e, he, -⟩ := h
      exact absurd ((ErrorResponse.fromJson_intoResponse err).symm.trans he) (by simp)
  · rintro rfl
    exact ⟨[], rfl, .nil⟩

/-- An error never makes the client panic: its decoder's failure has a branch of its own. -/
theorem failed_receive (statusText : Nat → String) (c : Command) (err : AppError) :
    c.receive statusText err.intoResponse =
      .failed ("Error: " ++ statusText err.intoResponse.status) := by
  have hstatus := err.intoResponse_status
  rw [Command.receive, if_neg (by omega), handleError_intoResponse]

theorem panicked_iff (statusText : Nat → String) (x : Exchange) :
    x.command.receive statusText x.response = .panicked ↔
      x.response.status = 200 ∧ x ≠ .list [] := by
  cases x with
  | get agent =>
    have hpanic := (unwrapThen_panicked printInstance).mpr
      (Instance.fromJson_response (.ofAgent agent))
    exact ⟨fun _ => ⟨rfl, fun h => (nomatch h)⟩,
      fun _ => (Command.receive_ok statusText .get _).trans hpanic⟩
  | list agents =>
    rw [show (list agents).command.receive statusText (list agents).response = _ from
      Command.receive_ok statusText .list _, Command.success, unwrapThen_panicked,
      Instance.seq_fromJson_response]
    cases agents with
    | nil => exact ⟨fun h => (nomatch h), fun h => absurd rfl h.2⟩
    | cons agent agents => exact ⟨fun _ => ⟨rfl, fun h => (nomatch h)⟩, fun _ => rfl⟩
  | logs name text =>
    have hpanic := (unwrapThen_panicked printLogs).mpr
      (LogsResponse.fromJson_logsBody name text)
    exact ⟨fun _ => ⟨rfl, fun h => (nomatch h)⟩,
      fun _ => (Command.receive_ok statusText .logs _).trans hpanic⟩
  | failed c err =>
    have hstatus := err.intoResponse_status
    rw [show (failed c err).command.receive statusText (failed c err).response = _ from
      failed_receive statusText c err]
    refine ⟨fun h => (nomatch h), fun h => ?_⟩
    have h200 : err.intoResponse.status = 200 := h.1
    omega

end Exchange

/-- The client decodes an answer only if it lists no instance; it panics on every other that is not
an error. -/
theorem exchange_decoded_iff (statusText : Nat → String) (x : Exchange) :
    (x.Decoded ↔ x = .list []) ∧
      (x.command.receive statusText x.response = .panicked ↔
        x.response.status = 200 ∧ x ≠ .list []) :=
  ⟨x.decoded_iff, x.panicked_iff statusText⟩

/-- `agent-cli get` on an instance that has just been created. -/
theorem get_panics :
    ¬ (Exchange.get ⟨{ name := some "a" }, requestedSpec { image := "img" }, none⟩).Decoded ∧
      Command.get.receive toString
        (respond InstanceResponse.toJson
          (.ok (.ofAgent ⟨{ name := some "a" }, requestedSpec { image := "img" }, none⟩))) =
        .panicked :=
  ⟨fun h => (nomatch (Exchange.decoded_iff _).mp h),
    (Exchange.panicked_iff toString
      (.get ⟨{ name := some "a" }, requestedSpec { image := "img" }, none⟩)).mpr
      ⟨rfl, fun h => (nomatch h)⟩⟩

end Cli
end AgentHosting
