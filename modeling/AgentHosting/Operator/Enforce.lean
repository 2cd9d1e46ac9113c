import AgentHosting.Operator.Settle

/-!
# AgentHosting.Operator.Enforce

How much of a changed spec a run brings to the children that are there already.

* `podNeedsUpdate_built` — the drift check compares the image and the two resource limits.
* `reconcile_enforces`   — after a run that nothing disturbs, the pod is that of the current spec up
  to the fields the drift check leaves out, and the NetworkPolicy and the Service are those of the
  current spec up to their ports.
* `reconcile_misses`     — each of the three may indeed be that of an earlier spec.
-/

namespace AgentHosting
namespace Operator

open Kube Prog

section Enforce

variable {ctx : Context} {agent : Agent}

theorem limitMatches_built (spec : AgentSpec) (cpu memory : String) :
    limitMatches ((BTreeMap.insert [] "cpu" spec.cpu).insert "memory" spec.memory) "cpu" cpu =
        decide (spec.cpu = cpu) ∧
      limitMatches ((BTreeMap.insert [] "cpu" spec.cpu).insert "memory" spec.memory) "memory"
        memory = decide (spec.memory = memory) := by
  constructor <;> rfl

/-- On a pod built from an earlier spec, the drift check looks at three fields. -/
theorem podNeedsUpdate_built (agent : Agent) (old : AgentSpec) :
    podNeedsUpdate (buildPod { agent with spec := old }) agent = false ↔
      old.image = agent.spec.image ∧ old.cpu = agent.spec.cpu ∧
        old.memory = agent.spec.memory := by
  obtain ⟨hcpu, hmemory⟩ := limitMatches_built old agent.spec.cpu agent.spec.memory
  simp only [podNeedsUpdate, buildPod, List.head?_cons, buildContainer, containerResources, hcpu,
    hmemory]
  by_cases himage : old.image = agent.spec.image
  · simp [himage]
  · simp [himage]

/-- The spec, with what the pod is built from and the drift check does not compare as `old` has it;
the image, the CPU and the memory stay. -/
def AgentSpec.carry (spec old : AgentSpec) : AgentSpec :=
  { spec with
    volumeMount := old.volumeMount
    securityProfile := old.securityProfile
    env := old.env
    enableDocker := old.enableDocker
    ports := old.ports
    command := old.command
    sshPubkey := old.sshPubkey }

/-- What the drift check lets pass was built from the current spec up to the fields carried over. -/
theorem buildPod_carry {old : AgentSpec}
    (h : podNeedsUpdate (buildPod { agent with spec := old }) agent = false) :
    buildPod { agent with spec := old } =
      buildPod { agent with spec := agent.spec.carry old } := by
  obtain ⟨himage, hcpu, hmemory⟩ := (podNeedsUpdate_built agent old).mp h
  have hcontainer : buildContainer old = buildContainer (agent.spec.carry old) := by
    simp only [buildContainer, containerResources, AgentSpec.carry, himage, hcpu, hmemory]
    rfl
  simp only [buildPod, hcontainer]
  rfl

/-- The pod a run leaves, when the one it finds was built from an earlier spec. -/
theorem settledPod_built (hstate : agent.spec.state = .running) {pod : Option Pod}
    (hpod : ∀ p, pod = some p → ∃ old, p = buildPod { agent with spec := old }) :
    ∃ old, settledPod agent pod = some (buildPod { agent with spec := agent.spec.carry old }) ∧
      (old = agent.spec ∨ settledPod agent pod = pod) := by
  have hnot : agent.spec.state ≠ .stopped := by
    rw [hstate]
    decide
  cases pod with
  | none => exact ⟨agent.spec, settledPod_none hnot, .inl rfl⟩
  | some p =>
    obtain ⟨old, rfl⟩ := hpod p rfl
    rw [settledPod_some hnot]
    cases hneed : podNeedsUpdate (buildPod { agent with spec := old }) agent with
    | true => exact ⟨agent.spec, rfl, .inl rfl⟩
    | false => exact ⟨old, congrArg some (buildPod_carry hneed), .inr rfl⟩

/-- A policy that was built from an earlier spec is that of the current one up to its ports. -/
theorem settled_netpol_built (np : Option NetworkPolicy)
    (hnp : ∀ o, np = some o → ∃ old, o = buildNetworkPolicy { agent with spec := old }) :
    ∃ ports, np.getD (buildNetworkPolicy agent) =
      buildNetworkPolicy { agent with spec := { agent.spec with ports := ports } } := by
  cases np with
  | none => exact ⟨agent.spec.ports, rfl⟩
  | some o =>
    obtain ⟨old, rfl⟩ := hnp o rfl
    exact ⟨old.ports, rfl⟩

theorem settled_service_built (svc : Option Service)
    (hsvc : ∀ o, svc = some o → ∃ old, o = buildService { agent with spec := old }) :
    ∃ ports, svc.getD (buildService agent) =
      buildService { agent with spec := { agent.spec with ports := ports } } := by
  cases svc with
  | none => exact ⟨agent.spec.ports, rfl⟩
  | some o =>
    obtain ⟨old, rfl⟩ := hsvc o rfl
    exact ⟨old.ports, rfl⟩

/-- The children found were each built from some spec of the Agent. -/
def BuiltEarlier (agent : Agent) (s : Cluster) : Prop :=
  ∀ k o, (view s agent.nameAny).objs k = some o →
    ∃ ctx old, o = build ctx { agent with spec := old } k

/-- After a run that nothing disturbs, over children built from any earlier specs: the PVC, the
NetworkPolicy and the Service are those found, or built from the current spec where there was none,
and the last two agree with the current spec on all but the ports; a stopped Agent has no pod; a
running one has a pod that agrees with the current spec on all but the fields carried over, and is
the one found unless it is that of the current spec. -/
theorem reconcile_enforces (ctx : Context) (agent : Agent) (s : Cluster)
    (hbuilt : BuiltEarlier agent s) :
    let found := (view s agent.nameAny).objs
    let left := (view (run Server.verbatim.exec (reconcile ctx agent).run s).2 agent.nameAny).objs
    (∀ k, k ≠ .pod → left k = some ((found k).getD (build ctx agent k))) ∧
      (∃ ports, left .netpol =
        some (buildNetworkPolicy { agent with spec := { agent.spec with ports := ports } })) ∧
      (∃ ports, left .service =
        some (buildService { agent with spec := { agent.spec with ports := ports } })) ∧
      (agent.spec.state = .stopped → left .pod = none) ∧
      (agent.spec.state = .running → ∃ old,
        left .pod = some (buildPod { agent with spec := agent.spec.carry old }) ∧
          (old = agent.spec ∨ left .pod = found .pod)) := by
  intro found left
  have hleft : left = settledObj ctx agent found :=
    congrArg Children.objs (reconcile_settles ctx agent s).2
  rw [hleft]
  refine ⟨fun k hk => ?_, ?_, ?_, fun hstate => ?_, fun hstate => ?_⟩
  · cases k with
    | pod => exact (hk rfl).elim
    | _ => rfl
  · obtain ⟨ports, hports⟩ := settled_netpol_built (found .netpol)
      fun o ho => (hbuilt .netpol o ho).elim fun _ h => h
    exact ⟨ports, congrArg some hports⟩
  · obtain ⟨ports, hports⟩ := settled_service_built (found .service)
      fun o ho => (hbuilt .service o ho).elim fun _ h => h
    exact ⟨ports, congrArg some hports⟩
  · exact settledPod_stopped hstate _
  · exact settledPod_built hstate fun p hp => (hbuilt .pod p hp).elim fun _ h => h

def Agent.sampleChanged : Agent :=
  let agent := Agent.sample "a" "uid-1" .running
  { agent with spec := { agent.spec with env := [⟨"MODE", "fast"⟩], ports := [⟨"http", 8080⟩] } }

/-- The children of the sample Agent, before its environment and its ports were changed. -/
def sampleBeforeChange : Cluster :=
  let old := Agent.sample "a" "uid-1" .running
  ((Agent.sampleChanged.alone.set .pod "agent-a" (some (buildPod old))).set .netpol
    "agent-a-isolation" (some (buildNetworkPolicy old))).set .service "agent-a"
      (some (buildService old))

theorem sampleBeforeChange_built : BuiltEarlier Agent.sampleChanged sampleBeforeChange := by
  intro k o h
  refine ⟨{}, (Agent.sample "a" "uid-1" .running).spec, ?_⟩
  cases k with
  | pvc => cases h
  | _ => exact (Option.some.inj h).symm

theorem reconcile_enforces_sample :
    ∃ old, (view (run Server.verbatim.exec (reconcile {} Agent.sampleChanged).run
        sampleBeforeChange).2 "a").objs .pod =
      some (buildPod { Agent.sampleChanged with spec := Agent.sampleChanged.spec.carry old }) := by
  obtain ⟨-, -, -, -, hrunning⟩ :=
    reconcile_enforces {} Agent.sampleChanged sampleBeforeChange sampleBeforeChange_built
  obtain ⟨old, hold, -⟩ := hrunning rfl
  exact ⟨old, hold⟩

/-- A successful run need not bring a child that exists to the current spec: here the pod lacks the
environment, and the NetworkPolicy and the Service have the ports of the earlier spec. -/
theorem reconcile_misses :
    ¬ ∃ k, k ≠ .pvc ∧ ∀ (ctx : Context) (agent : Agent) (s : Cluster), BuiltEarlier agent s →
      agent.spec.state = .running →
      (run Server.verbatim.exec (reconcile ctx agent).run s).1 = .ok ⟨30⟩ →
      (view (run Server.verbatim.exec (reconcile ctx agent).run s).2 agent.nameAny).objs k =
        some (build ctx agent k) := by
  rintro ⟨k, hk, h⟩
  have hsame := h {} Agent.sampleChanged sampleBeforeChange sampleBeforeChange_built rfl rfl
  rw [(reconcile_settles {} Agent.sampleChanged sampleBeforeChange).2] at hsame
  cases k with
  | pvc => exact hk rfl
  | pod =>
    have henv := congrArg (fun p : Pod => p.spec.map fun spec => spec.containers.map (·.env))
      (Option.some.inj hsame)
    exact absurd henv (by decide)
  | netpol =>
    have hrules := congrArg (fun np : NetworkPolicy => np.spec.map (·.ingress))
      (Option.some.inj hsame)
    exact absurd hrules (by decide)
  | service =>
    have hports := congrArg (fun svc : Service => svc.spec.map (·.ports)) (Option.some.inj hsame)
    exact absurd hports (by decide)

end Enforce

end Operator
end AgentHosting
