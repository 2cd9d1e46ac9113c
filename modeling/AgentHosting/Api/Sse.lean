import AgentHosting.Api.Crd
import AgentHosting.Kube.Cluster

/-!
# AgentHosting.Api.Sse

The event streams of `api/src/sse.rs`. A stream that polls is a function of what it is answered:
from the clock reading it starts at and the polls so far it computes the events it has emitted,
the number of `get_opt` calls it has made, and whether it has ended.
-/

namespace AgentHosting
namespace Api

open Kube

structure SseEvent where
  name : String
  data : Json

def sseEvent (name : String) (data : Json) : SseEvent := ⟨name, data⟩

def sseError (message : String) : SseEvent :=
  sseEvent "error" (Json.object [("error", .str message)])

/-- `str::to_lowercase` on ASCII; the phases the operator and Kubernetes write are ASCII. -/
def toLowercase (s : String) : String := s.map Char.toLower

def deriveStatusFromSpecAndStatus (spec : AgentSpec) (status : AgentStatus) : String :=
  if spec.state = .stopped then "stopped"
  else
    match status.phase with
    | some "Running" => "running"
    | some "Creating" | some "Pending" | none => "creating"
    | some "Stopped" => "stopped"
    | some "CrashLoopBackOff" | some "Failed" => "error"
    | some other => toLowercase other

def deriveStatus (agent : Agent) : String :=
  deriveStatusFromSpecAndStatus agent.spec (agent.status.getD {})

/-! ## Time -/

/-- A reading of the monotonic clock, in nanoseconds. -/
abbrev Instant := Nat

/-- `Duration::from_secs`, in nanoseconds. -/
def fromSecs (secs : Nat) : Nat := secs * 1000000000

/-! ## Polling -/

/-- One turn of a polling loop: the clock when it checks the deadline, and what `get_opt` would
answer then. -/
structure Poll where
  now : Instant
  answer : Except KubeError (Option Agent)

structure StreamRun where
  events : List SseEvent
  /-- The number of `get_opt` calls made. -/
  calls : Nat
  finished : Bool

def StreamRun.emit (e : SseEvent) (r : StreamRun) : StreamRun :=
  ⟨e :: r.events, r.calls + 1, r.finished⟩

def StreamRun.quiet (r : StreamRun) : StreamRun := ⟨r.events, r.calls + 1, r.finished⟩

/-- The loop of `poll_status_stream`, with its deadline. -/
def pollLoop (target : String) (deadline : Instant) : List Poll → StreamRun
  | [] => ⟨[], 0, false⟩
  | p :: polls =>
    if p.now > deadline then ⟨[sseError "timeout waiting for status transition"], 0, true⟩
    else
      match p.answer with
      | .ok (some agent) =>
        if deriveStatus agent = target then ⟨[], 1, true⟩
        else (pollLoop target deadline polls).emit
          (sseEvent "status" (Json.object [("status", .str (deriveStatus agent))]))
      | .ok none =>
        if target = "deleted" then ⟨[], 1, true⟩ else (pollLoop target deadline polls).quiet
      | .error e => ⟨[sseError ("polling error: " ++ e.text)], 1, true⟩

/-- `poll_status_stream`, polled for the first time when the clock reads `start`. -/
def pollStatusStream (target : String) (timeout : Nat) (start : Instant) (polls : List Poll) :
    StreamRun :=
  pollLoop target (start + timeout) polls

/-- Events before a stream, and one event after its end. -/
def StreamRun.around (before : List SseEvent) (after : SseEvent) (r : StreamRun) : StreamRun :=
  { r with events := before ++ r.events ++ if r.finished then [after] else [] }

end Api
end AgentHosting
