import AgentHosting.Kube.NetworkPolicy
import AgentHosting.Operator.Resources

/-!
# AgentHosting.Operator.Network

What the policy of an Agent lets through. Its second ingress rule names ports and no peers, and its
egress rule likewise, so both are open to the pods of other Agents.

* `admitsIngress_built`, `admitsEgress_built` — the two directions of a built policy.
* `ingress_exact_iff` — the ingress is the intended one exactly when the Agent lists some port.
* `isolated_iff`      — an Agent is out of reach of the other Agents exactly when it lists ports,
  and none of them is a DNS, HTTP or HTTPS port.
-/

namespace AgentHosting
namespace Operator

open Kube

def agentNamespace (agent : Agent) : String := agent.metadata.namespace.getD "agents"

@[simp] theorem agentLabels_name (name : String) :
    BTreeMap.get (agentLabels name) "agents.near.ai/name" = some name := rfl

@[simp] theorem agentLabels_app (name : String) :
    BTreeMap.get (agentLabels name) "app" = some "agent" := rfl

theorem policyPort_admits (z : Int32) (proto proto' : Protocol) (dst : Endpoint) (port : Int32) :
    (policyPort z proto.name).admits dst proto' port = true ↔ proto = proto' ∧ z = port := by
  have hname : ∀ p q : Protocol, p.name = q.name ↔ p = q := by
    intro p q
    cases p <;> cases q <;> simp [Protocol.name]
  cases dst <;> simp [policyPort, NetworkPolicyPort.admits, hname]

theorem podSelectorPeer_admits (app : String) (ns : Option String) (src : Endpoint) :
    (podSelectorPeer app).admits ns src = true ↔
      ∃ p, src = .pod p ∧ p.metadata.namespace = ns ∧
        BTreeMap.get (p.metadata.labels.getD []) "app" = some app := by
  cases src with
  | external address => simp [NetworkPolicyPeer.admits]
  | pod p =>
    simp [podSelectorPeer, NetworkPolicyPeer.admits, LabelSelector.matches, BTreeMap.insert]

/-! ## Ingress -/

/-- The source is a pod of the ingress controller or of the SSH proxy, in the namespace. -/
def FromInfra (ns : String) (src : Endpoint) : Prop :=
  ∃ p, src = .pod p ∧ p.metadata.namespace = some ns ∧
    (BTreeMap.get (p.metadata.labels.getD []) "app" = some "ingress-controller" ∨
      BTreeMap.get (p.metadata.labels.getD []) "app" = some "ssh-proxy")

/-- The connection is to a port the Agent lists. -/
def ToListedPort (agent : Agent) (proto : Protocol) (port : Int32) : Prop :=
  proto = .tcp ∧ ∃ entry ∈ agent.spec.ports, entry.port = port

theorem admitsIngress_built (agent : Agent) (src : Endpoint) (dst : Pod) (proto : Protocol)
    (port : Int32) :
    (buildNetworkPolicy agent).admitsIngress src dst proto port = true ↔
      FromInfra (agentNamespace agent) src ∨ agent.spec.ports = [] ∨
        ToListedPort agent proto port := by
  have hinfra : anyOrAll (some [podSelectorPeer "ingress-controller", podSelectorPeer "ssh-proxy"])
      (·.admits (some (agentNamespace agent)) src) = true ↔
        FromInfra (agentNamespace agent) src := by
    rw [anyOrAll_of_ne_nil (by simp)]
    simp only [List.any_cons, List.any_nil, Bool.or_false, Bool.or_eq_true,
      podSelectorPeer_admits, FromInfra]
    constructor
    · rintro (⟨p, hp, hns, happ⟩ | ⟨p, hp, hns, happ⟩)
      · exact ⟨p, hp, hns, .inl happ⟩
      · exact ⟨p, hp, hns, .inr happ⟩
    · rintro ⟨p, hp, hns, happ | happ⟩
      · exact .inl ⟨p, hp, hns, happ⟩
      · exact .inr ⟨p, hp, hns, happ⟩
  have hports : anyOrAll (some (agent.spec.ports.map fun p => policyPort p.port "TCP"))
      (·.admits (.pod dst) proto port) = true ↔
        agent.spec.ports = [] ∨ ToListedPort agent proto port := by
    by_cases hnil : agent.spec.ports = []
    · simp [hnil, anyOrAll]
    · rw [anyOrAll_of_ne_nil (by simpa using hnil), List.any_map, List.any_eq_true]
      simp only [Function.comp_apply, hnil, false_or, ToListedPort]
      constructor
      · rintro ⟨entry, hentry, hadmits⟩
        obtain ⟨hproto, hport⟩ := (policyPort_admits entry.port .tcp proto _ port).mp hadmits
        exact ⟨hproto.symm, entry, hentry, hport⟩
      · rintro ⟨rfl, entry, hentry, hport⟩
        exact ⟨entry, hentry, (policyPort_admits entry.port .tcp .tcp _ port).mpr ⟨rfl, hport⟩⟩
  -- the first rule has no ports, the second no peers
  show ((anyOrAll (some [podSelectorPeer "ingress-controller", podSelectorPeer "ssh-proxy"])
      (·.admits (some (agentNamespace agent)) src) && true) || ((true && anyOrAll (some
        (agent.spec.ports.map fun p => policyPort p.port "TCP"))
      (·.admits (.pod dst) proto port)) || false)) = true ↔ _
  rw [Bool.and_true, Bool.true_and, Bool.or_false, Bool.or_eq_true]
  exact or_congr hinfra hports

/-- The sources, protocols and ports that should be let in. -/
def IntendedIngress (agent : Agent) (src : Endpoint) (proto : Protocol) (port : Int32) : Prop :=
  FromInfra (agentNamespace agent) src ∨ ToListedPort agent proto port

/-- The policy of an Agent admits exactly what is intended when the Agent lists some port. With no
port in it the second rule is a rule without ports, which is open to everyone on every port. -/
theorem ingress_exact_iff (agent : Agent) (dst : Pod) :
    (∀ src proto port, (buildNetworkPolicy agent).admitsIngress src dst proto port = true ↔
        IntendedIngress agent src proto port) ↔ agent.spec.ports ≠ [] := by
  simp only [admitsIngress_built, IntendedIngress]
  constructor
  · intro h hnil
    rcases (h (.external "203.0.113.1") .udp 0).mp (.inr (.inl hnil)) with ⟨p, hp, -⟩ | ⟨hproto, -⟩
    · cases hp
    · cases hproto
  · intro hports src proto port
    simp only [hports, false_or]

/-- An Agent that lists no port. -/
def Agent.samplePortless : Agent :=
  let agent := Agent.sample "a" "uid-1" .running
  { agent with spec := { agent.spec with ports := [] } }

/-- Its policy admits UDP from anywhere. -/
theorem portless_admits_all :
    ¬ ∀ src proto port, (buildNetworkPolicy Agent.samplePortless).admitsIngress src
        (buildPod Agent.samplePortless) proto port = true ↔
      IntendedIngress Agent.samplePortless src proto port := by
  intro h
  rcases (h (.external "203.0.113.1") .udp 0).mp rfl with ⟨p, hp, -⟩ | ⟨hproto, -⟩
  · cases hp
  · cases hproto

/-! ## Egress -/

/-- DNS, HTTP and HTTPS. -/
def OutboundPort (proto : Protocol) (port : Int32) : Prop :=
  (proto = .udp ∧ port = 53) ∨ (proto = .tcp ∧ (port = 53 ∨ port = 80 ∨ port = 443))

theorem admitsEgress_built (agent : Agent) (dst : Endpoint) (proto : Protocol) (port : Int32) :
    (buildNetworkPolicy agent).admitsEgress dst proto port = true ↔ OutboundPort proto port := by
  show (List.any [_] _) = true ↔ _
  simp only [List.any_cons, List.any_nil, Bool.or_false]
  rw [anyOrAll_none, Bool.true_and, anyOrAll_of_ne_nil (by simp)]
  simp only [List.any_cons, List.any_nil, Bool.or_false, Bool.or_eq_true]
  have hentry : ∀ z q, (policyPort z (Protocol.name q)).admits dst proto port = true ↔
      q = proto ∧ z = port := fun z q => policyPort_admits z q proto dst port
  have hudp := hentry 53 .udp
  have hdns := hentry 53 .tcp
  have hhttp := hentry 80 .tcp
  have hhttps := hentry 443 .tcp
  simp only [Protocol.name] at hudp hdns hhttp hhttps
  rw [hudp, hdns, hhttp, hhttps, OutboundPort]
  grind

/-! ## From Agent to Agent -/

section Isolation

theorem selects_built (agent : Agent) (p : Pod) :
    (buildNetworkPolicy agent).selects p = true ↔
      p.metadata.namespace = some (agentNamespace agent) ∧
        BTreeMap.get (p.metadata.labels.getD []) "agents.near.ai/name" = some agent.nameAny := by
  simp [NetworkPolicy.selects, buildNetworkPolicy, childMeta, agentNamespace,
    LabelSelector.matches, BTreeMap.insert]

theorem selects_builtPod (agent other : Agent) :
    (buildNetworkPolicy agent).selects (buildPod other) = true ↔
      agentNamespace other = agentNamespace agent ∧ other.nameAny = agent.nameAny := by
  rw [selects_built]
  simp [buildPod, childMeta, agentNamespace]

variable {agents : List Agent}

/-- Among the policies of Agents of different names only its own applies to a pod. -/
theorem policies_unique (hnames : agents.Pairwise fun a b => a.nameAny ≠ b.nameAny) {agent : Agent}
    (h : agent ∈ agents) : ∀ np ∈ agents.map buildNetworkPolicy,
      np.selects (buildPod agent) = true → np = buildNetworkPolicy agent := by
  intro np hnp hselects
  obtain ⟨other, hother, rfl⟩ := List.mem_map.mp hnp
  have hname : agent.nameAny = other.nameAny := ((selects_builtPod other agent).mp hselects).2
  rw [eq_of_nameAny hnames h hother hname]

theorem ingressAllowed_built (hnames : agents.Pairwise fun a b => a.nameAny ≠ b.nameAny)
    {agent : Agent} (h : agent ∈ agents) (src : Endpoint) (proto : Protocol) (port : Int32) :
    ingressAllowed (agents.map buildNetworkPolicy) src (buildPod agent) proto port =
      (buildNetworkPolicy agent).admitsIngress src (buildPod agent) proto port := by
  have hselected : ((buildNetworkPolicy agent).selects (buildPod agent) &&
      (buildNetworkPolicy agent).closesIngress) = true :=
    Bool.and_eq_true_iff.mpr ⟨(selects_builtPod agent agent).mpr ⟨rfl, rfl⟩, rfl⟩
  exact anyOrAll_filter_unique (List.mem_map_of_mem h) hselected
    fun np hnp hsel => policies_unique hnames h np hnp (Bool.and_eq_true_iff.mp hsel).1

theorem egressAllowed_built (hnames : agents.Pairwise fun a b => a.nameAny ≠ b.nameAny)
    {agent : Agent} (h : agent ∈ agents) (dst : Endpoint) (proto : Protocol) (port : Int32) :
    egressAllowed (agents.map buildNetworkPolicy) (buildPod agent) dst proto port =
      (buildNetworkPolicy agent).admitsEgress dst proto port := by
  have hselected : ((buildNetworkPolicy agent).selects (buildPod agent) &&
      (buildNetworkPolicy agent).closesEgress) = true :=
    Bool.and_eq_true_iff.mpr ⟨(selects_builtPod agent agent).mpr ⟨rfl, rfl⟩, rfl⟩
  exact anyOrAll_filter_unique (List.mem_map_of_mem h) hselected
    fun np hnp hsel => policies_unique hnames h np hnp (Bool.and_eq_true_iff.mp hsel).1

/-- Among any Agents of different names, no TCP or UDP connection from the pod of one to the pod of
another is let through exactly when the other lists some port, and no DNS, HTTP or HTTPS port. -/
theorem isolated_iff (agents : List Agent)
    (hnames : agents.Pairwise fun a b => a.nameAny ≠ b.nameAny) {a b : Agent} (ha : a ∈ agents)
    (hb : b ∈ agents) :
    (∀ proto port, proto = .tcp ∨ proto = .udp →
        connects (agents.map buildNetworkPolicy) (buildPod b) (buildPod a) proto port = false) ↔
      a.spec.ports ≠ [] ∧ ∀ entry ∈ a.spec.ports, entry.port ∉ [(53 : Int32), 80, 443] := by
  have hconnects : ∀ proto port, connects (agents.map buildNetworkPolicy) (buildPod b) (buildPod a)
      proto port = true ↔
        OutboundPort proto port ∧ (a.spec.ports = [] ∨ ToListedPort a proto port) := by
    intro proto port
    rw [connects, Bool.and_eq_true, egressAllowed_built hnames hb, ingressAllowed_built hnames ha,
      admitsEgress_built, admitsIngress_built]
    have hinfra : ¬ FromInfra (agentNamespace a) (.pod (buildPod b)) := by
      rintro ⟨p, hp, -, happ⟩
      cases hp
      have happs : ("agent" : String) ≠ "ingress-controller" ∧ "agent" ≠ "ssh-proxy" := by decide
      exact happ.elim (fun h => happs.1 (Option.some.inj h)) fun h => happs.2 (Option.some.inj h)
    simp only [hinfra, false_or]
  constructor
  · intro hclosed
    have hopen : ∀ proto port, proto = .tcp ∨ proto = .udp → OutboundPort proto port →
        ¬ (a.spec.ports = [] ∨ ToListedPort a proto port) := fun proto port hproto hout hin => by
      have hconnected := (hconnects proto port).mpr ⟨hout, hin⟩
      rw [hclosed proto port hproto] at hconnected
      cases hconnected
    refine ⟨fun hnil => hopen .tcp 80 (.inl rfl) (.inr ⟨rfl, .inr (.inl rfl)⟩) (.inl hnil), ?_⟩
    intro entry hentry hport
    refine hopen .tcp entry.port (.inl rfl) (.inr ⟨rfl, ?_⟩) (.inr ⟨rfl, entry, hentry, rfl⟩)
    simpa using hport
  · rintro ⟨hports, hlisted⟩ proto port -
    refine Bool.eq_false_iff.mpr fun hconnected => ?_
    obtain ⟨hout, hnil | ⟨rfl, entry, hentry, rfl⟩⟩ := (hconnects proto port).mp hconnected
    · exact hports hnil
    · refine hlisted entry hentry ?_
      rcases hout with ⟨hproto, -⟩ | ⟨-, hout⟩
      · cases hproto
      · simpa using hout

/-- Two Agents; the second listens on a port of its own only. -/
def Agent.sampleSsh : Agent :=
  let agent := Agent.sample "b" "uid-2" .running
  { agent with spec := { agent.spec with ports := [⟨"ssh", 22⟩] } }

theorem isolated_iff_ssh :
    connects ([Agent.sample "a" "uid-1" .running, Agent.sampleSsh].map buildNetworkPolicy)
      (buildPod (Agent.sample "a" "uid-1" .running)) (buildPod Agent.sampleSsh) .tcp 22 =
      false := by
  have hisolated := (isolated_iff [Agent.sample "a" "uid-1" .running, Agent.sampleSsh]
    (.cons (by decide) (.cons (by simp) .nil)) (List.mem_cons_of_mem _ List.mem_cons_self)
    List.mem_cons_self).mpr ⟨by decide, by decide⟩
  exact hisolated .tcp 22 (.inl rfl)

/-- With the default ports the HTTP port of one Agent is open to the pod of another. -/
theorem default_ports_reachable :
    ¬ ∀ proto port, proto = .tcp ∨ proto = .udp →
      connects
        ([Agent.sample "a" "uid-1" .running, Agent.sample "b" "uid-2" .running].map
          buildNetworkPolicy)
        (buildPod (Agent.sample "b" "uid-2" .running))
        (buildPod (Agent.sample "a" "uid-1" .running)) proto port = false := by
  intro h
  exact absurd (h .tcp 80 (.inl rfl)) (by decide)

end Isolation

end Operator
end AgentHosting
