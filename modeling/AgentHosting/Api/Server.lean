import AgentHosting.Api.Responses

/-!
# AgentHosting.Api.Server

The API server as one program: the layers of `api/src/main.rs` around its routes, the bearer check
of `api/src/auth.rs`, and every handler of `api/src/handlers.rs`.

* `Ask`      — what the handlers ask of Kubernetes: the calls of `Kube.Call` and four more reads.
* `route`    — the route table, on the segments of the path.
* `serve`    — a request through all layers, to its answer.
* `withBody` — a request to the end of the body of its answer.

What the framework does with a request before a handler runs is taken as given in `HttpRequest`: the
query and the body come decoded, or with the status of their rejection.
-/

namespace AgentHosting
namespace Api

open Kube Json

/-! ## What handlers ask for -/

inductive Ask where
  | cluster (c : Call)
  | listAgents
  | logs (podName : String) (tailLines : Int)
  | listNodes
  | getRuntimeClass (name : String)

/-- Nodes are answered by their names. -/
@[reducible] def Reply : Ask → Type
  | .cluster c => Answer c
  | .listAgents => Except KubeError (List AgentObject)
  | .logs _ _ => Except KubeError String
  | .listNodes => Except KubeError (List (Option String))
  | .getRuntimeClass _ => Except KubeError (Option Unit)

/-- A program that only makes calls of `Kube.Call`. -/
def lift {α : Type} : Prog Call Answer α → Prog Ask Reply α
  | .ret a => .ret a
  | .call c k => .call (.cluster c) fun r => lift (k r)

inductive Method where
  | get
  | head
  | post
  | delete
  | options
  | other
deriving DecidableEq

structure HttpRequest where
  method : Method
  path : String
  /-- The value of the `authorization` header, where it is text. -/
  authorization : Option String
  /-- `LogsQuery`, or the status it is rejected with. -/
  tail : Except Nat (Option Int)
  body : Except Nat Json

/-- What is sent back: JSON, the events of a stream about an instance, or an answer of the
framework's own. The body of an event stream runs as it is read: first `calls`, then the loop of the
stream these return. -/
inductive Served where
  | json (r : Response)
  | events (name : String) (calls : Prog Call Answer Stream)
  | plain (status : Nat)

/-! ## The bearer check -/

inductive ApiEndpoint where
  | health
  | listNodes
  | createInstance
  | listInstances
  | getInstance (name : String)
  | deleteInstance (name : String)
  | startInstance (name : String)
  | stopInstance (name : String)
  | restartInstance (name : String)
  | getLogs (name : String)
  | getSshInfo (name : String)
  | getStats (name : String)
deriving DecidableEq

inductive Routed where
  | endpoint (e : ApiEndpoint)
  | rejected (status : Nat)
  | fallback
deriving DecidableEq

/-- `get(..)`, which answers HEAD too. -/
def reads (m : Method) (r : Routed) : Routed := if m = .get ∨ m = .head then r else .rejected 405

/-- `Path(name)`: the segment with its percent escapes resolved by `decode`. -/
def named (decode : String → Option String) (segment : String) (e : String → ApiEndpoint) :
    Routed :=
  match decode segment with
  | some name => .endpoint (e name)
  | none => .rejected 400

/-- A handler that answers what it returns as JSON. -/
def answered {α : Type} (toJson : α → Json) (p : Prog Ask Reply (Except AppError α)) :
    Prog Ask Reply Served :=
  p.bind fun r => .ret (.json (respond toJson r))

/-- The body of an answer as it is read, with a turn of its loop for each reading of the clock. -/
def Served.body (start : Instant) (clock : List Instant) :
    Served → Prog Ask Reply (Option StreamRun)
  | .events name calls =>
    (lift (calls.bind fun stream => watch stream name start clock [])).bind
      fun run => .ret (some run)
  | _ => .ret none

end Api
end AgentHosting
