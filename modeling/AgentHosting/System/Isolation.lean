import AgentHosting.System.Tasks

/-!
# AgentHosting.System.Isolation

Whether a pod of an Agent is always under the NetworkPolicy of that Agent. The policy is created
after the pod, so it is not; it is in every run that creates no pod before its policy.

* `Guarded`       — the invariant: pods and policies carry the label of their name, and a pod is
  there only with its policy.
* `isolated_of_policyStored` — the invariant along every run whose pod creations find the policy.
* `pod_without_policy` — a run that reaches a pod without its policy.
-/

namespace AgentHosting
namespace System

open Kube Prog

def Selects (np : NetworkPolicy) (p : Pod) : Prop :=
  ∃ spec, np.spec = some spec ∧ spec.podSelector.matches (p.metadata.labels.getD []) = true

/-- The selector of the policies of one Agent. -/
def agentSelector (name : String) : LabelSelector where
  matchLabels := some (BTreeMap.insert [] "agents.near.ai/name" name)

theorem agentSelector_matches (name : String) :
    (agentSelector name).matches (Operator.agentLabels name) = true := by
  simp [LabelSelector.matches, agentSelector, Operator.agentLabels, BTreeMap.insert, BTreeMap.get,
    List.lookup_cons]

structure Guarded (s : Cluster) : Prop where
  labels : ∀ n p, s.objs .pod (Operator.podName n) = some p →
    p.metadata.labels = some (Operator.agentLabels n)
  selector : ∀ n np, s.objs .netpol (Operator.netpolName n) = some np →
    ∃ spec, np.spec = some spec ∧ spec.podSelector = agentSelector n
  policy : ∀ n, (s.objs .pod (Operator.podName n)).isSome →
    (s.objs .netpol (Operator.netpolName n)).isSome

namespace Guarded

theorem of_objs {s s' : Cluster} (h : Guarded s) (hobjs : s'.objs = s.objs) : Guarded s' :=
  ⟨by rw [hobjs]; exact h.labels, by rw [hobjs]; exact h.selector, by rw [hobjs]; exact h.policy⟩

theorem empty : Guarded Cluster.empty := by
  refine ⟨fun n p h => ?_, fun n np h => ?_, fun n h => ?_⟩
  · cases h
  · cases h
  · cases h

theorem setPod {s : Cluster} (h : Guarded s) {m : String} {o : Option Pod}
    (hwrite : ∀ n, m = Operator.podName n → ∀ p, o = some p →
      p.metadata.labels = some (Operator.agentLabels n) ∧
        (s.objs .netpol (Operator.netpolName n)).isSome) :
    Guarded (s.set .pod m o) := by
  have hnetpol : ∀ n, (s.set .pod m o).objs .netpol n = s.objs .netpol n :=
    fun n => Cluster.set_other_kind s (by decide) _ _ _
  refine ⟨fun n p hp => ?_, fun n np hnp => ?_, fun n hp => ?_⟩
  · by_cases hn : Operator.podName n = m
    · subst hn
      exact (hwrite n rfl p (by simpa using hp)).1
    · exact h.labels n p (by rwa [Cluster.set_other_name _ _ hn] at hp)
  · rw [hnetpol] at hnp
    exact h.selector n np hnp
  · rw [hnetpol]
    by_cases hn : Operator.podName n = m
    · subst hn
      rw [Cluster.set_same] at hp
      obtain ⟨p, hp⟩ := Option.isSome_iff_exists.mp hp
      exact (hwrite n rfl p hp).2
    · exact h.policy n (by rwa [Cluster.set_other_name _ _ hn] at hp)

theorem setNetpol {s : Cluster} (h : Guarded s) {name : String} {np : NetworkPolicy}
    (hselector : ∃ spec, np.spec = some spec ∧ spec.podSelector = agentSelector name) :
    Guarded (s.set .netpol (Operator.netpolName name) (some np)) := by
  have hpod : ∀ n, (s.set .netpol (Operator.netpolName name) (some np)).objs .pod n =
      s.objs .pod n :=
    fun n => Cluster.set_other_kind s (by decide) _ _ _
  refine ⟨fun n p hp => ?_, fun n np' hnp => ?_, fun n hp => ?_⟩
  · rw [hpod] at hp
    exact h.labels n p hp
  · by_cases hn : n = name
    · subst hn
      rw [Cluster.set_same] at hnp
      rw [← Option.some.inj hnp]
      exact hselector
    · have hne : Operator.netpolName n ≠ Operator.netpolName name :=
        fun e => hn (Operator.netpolName_injective e)
      exact h.selector n np' (by rwa [Cluster.set_other_name _ _ hne] at hnp)
  · rw [hpod] at hp
    by_cases hn : n = name
    · subst hn
      rw [Cluster.set_same]
      rfl
    · have hne : Operator.netpolName n ≠ Operator.netpolName name :=
        fun e => hn (Operator.netpolName_injective e)
      rw [Cluster.set_other_name _ _ hne]
      exact h.policy n hp

theorem setOther {s : Cluster} (h : Guarded s) {k : Kind} (hpod : Kind.pod ≠ k)
    (hnetpol : Kind.netpol ≠ k) (n : String) (o : Option (Obj k)) : Guarded (s.set k n o) := by
  have hp : (s.set k n o).objs .pod = s.objs .pod :=
    funext fun n' => Cluster.set_other_kind s hpod n n' o
  have hn : (s.set k n o).objs .netpol = s.objs .netpol :=
    funext fun n' => Cluster.set_other_kind s hnetpol n n' o
  exact ⟨by rw [hp]; exact h.labels, by rw [hn]; exact h.selector,
    by rw [hp, hn]; exact h.policy⟩

theorem selects {s : Cluster} (h : Guarded s) {n : String} {p : Pod}
    (hp : s.objs .pod (Operator.podName n) = some p) :
    ∃ np, s.objs .netpol (Operator.netpolName n) = some np ∧ Selects np p := by
  obtain ⟨np, hnp⟩ := Option.isSome_iff_exists.mp (h.policy n (by rw [hp]; rfl))
  obtain ⟨spec, hspec, hsel⟩ := h.selector n np hnp
  refine ⟨np, hnp, spec, hspec, ?_⟩
  rw [hsel, h.labels n p hp]
  exact agentSelector_matches n

end Guarded

/-! ## Runs -/

section Runs

variable (ctx : Operator.Context) (graceful : Bool) (deletedAt : String)

/-- The operator and the API server, with any number of runs for any Agents, any call failing before
or after its effect, and the nodes reporting on pods and finishing deletions. -/
abbrev AnyStep : World Nat → Label Nat → World Nat → Prop :=
  Pool.Step (Spawns ctx) (Server.plain graceful deletedAt).Faulty Kubelet

def podCreated : Call → Option String
  | .create .pod p => some (objName (k := .pod) p)
  | _ => none

/-- The step does not create a pod before its policy. -/
def PolicyStored (w : World Nat) (l : Label Nat) : Prop :=
  ∀ i c r n, l = .call i c r → podCreated c = some (Operator.podName n) →
    (w.state.objs .netpol (Operator.netpolName n)).isSome

variable {ctx graceful deletedAt}

theorem guarded_kubelet {s s' : Cluster} (h : Guarded s) (hs : Kubelet s s') : Guarded s' := by
  cases hs with
  | finish _ _ => exact h.setPod fun n _ p hp => by cases hp
  | @report n p nodeName status hp =>
    refine h.setPod fun m hm q hq => ?_
    subst hm
    rw [← Option.some.inj hq]
    exact ⟨h.labels m p hp, h.policy m (by rw [hp]; rfl)⟩

theorem guarded_call {w : World Nat} {i : TaskId Nat} {c : Call} {r : Answer c} {s' : Cluster}
    (h : Guarded w.state) (hc : TaskCall ctx i c) (hg : PolicyStored w (.call i c r))
    (hs : (Server.plain graceful deletedAt).Faulty w.state c r s') : Guarded s' := by
  rcases taskCall_effect hc hs with hobjs | ⟨agent, k, rfl, -, rfl⟩ | ⟨name, p, hp, rfl⟩
  · exact h.of_objs hobjs
  · cases k with
    | pvc => exact h.setOther (by decide) (by decide) _ _
    | service => exact h.setOther (by decide) (by decide) _ _
    | netpol => exact h.setNetpol ⟨_, rfl, rfl⟩
    | pod =>
      refine h.setPod fun n hn p hp => ?_
      obtain rfl := Operator.podName_injective hn
      rw [← Option.some.inj hp]
      have hname : podCreated (.create .pod (Operator.build ctx agent .pod)) =
          some (Operator.podName agent.nameAny) :=
        congrArg some (Operator.objName_build ctx agent .pod)
      exact ⟨rfl, hg i _ r _ rfl hname⟩
  · refine h.setPod fun n hn q hq => ?_
    obtain rfl := Operator.podName_injective hn
    have hlabels : q.metadata.labels = p.metadata.labels := by
      simp only [Server.remains] at hq
      split at hq
      · rw [← Option.some.inj hq]
      · cases hq
    exact ⟨hlabels.trans (h.labels _ p hp), h.policy _ (by rw [hp]; rfl)⟩

/-- In every run from the empty cluster that creates no pod before its policy, every state has a
policy for every pod of an Agent, and that policy applies to it. -/
theorem isolated_of_policyStored (ctx : Operator.Context) (graceful : Bool) (deletedAt : String)
    {tr : List (World Nat × Label Nat)} {w : World Nat}
    (h : Run (AnyStep ctx graceful deletedAt) (World.initial Cluster.empty) tr w)
    (hg : ∀ e ∈ tr, PolicyStored e.1 e.2) {n : String} {p : Pod}
    (hp : w.state.objs .pod (Operator.podName n) = some p) :
    ∃ np, w.state.objs .netpol (Operator.netpolName n) = some np ∧ Selects np p := by
  have hinv := Pool.invariant (I := Guarded) (G := PolicyStored) (A := TaskCall ctx)
    (fun _ _ => spawns_calls) (fun _ _ => guarded_kubelet)
    (fun w i c r s' hi hc hgl hs => guarded_call hi hc hgl hs) h hg
    (World.initial_tasksIn _ _) .empty
  exact hinv.2.selects hp

end Runs

/-- A stopped Agent has got its policy. -/
def worldStopped : World Nat :=
  (World.initial Cluster.empty).advanced Server.verbatim.exec (.operator "a" 0)
    (reconcileTask {} (.sample "a" "uid-1" .stopped)) 5

/-- It is started and has got its pod. -/
def worldStarted : World Nat :=
  worldStopped.advanced Server.verbatim.exec (.operator "a" 1)
    (reconcileTask {} (.sample "a" "uid-1" .running)) 3

theorem isolated_of_policyStored_started :
    ∃ p np, worldStarted.state.objs .pod (Operator.podName "a") = some p ∧
      worldStarted.state.objs .netpol (Operator.netpolName "a") = some np ∧ Selects np p := by
  obtain ⟨tr, hrun, hcalls⟩ := Pool.run_advanced Kubelet Server.verbatim.exec
    (w := World.initial Cluster.empty) rfl
    (.reconcile (.sample "a" "uid-1" .stopped) 0 : Spawns {} _ _) 5
    fun _ _ _ _ => Server.Faulty.served (S := Server.verbatim)
  obtain ⟨tr', hrun', hcalls'⟩ := Pool.run_advanced Kubelet Server.verbatim.exec
    (w := worldStopped) rfl (.reconcile (.sample "a" "uid-1" .running) 1 : Spawns {} _ _) 3
    fun _ _ _ _ => Server.Faulty.served (S := Server.verbatim)
  -- the first run creates no pod, the second finds the policy at each of its calls
  have hfirst : ∀ m < 5, ((reconcileTask {} (.sample "a" "uid-1" .stopped)).after
      Server.verbatim.exec m Cluster.empty).1.next.bind podCreated = none := by decide
  have hsecond : ∀ m < 3, ((reconcileTask {} (.sample "a" "uid-1" .running)).after
        Server.verbatim.exec m worldStopped.state).1.next.bind podCreated ∈
          [none, some (Operator.podName "a")] ∧
      (((reconcileTask {} (.sample "a" "uid-1" .running)).after Server.verbatim.exec m
        worldStopped.state).2.objs .netpol (Operator.netpolName "a")).isSome := by decide
  have hg : ∀ e ∈ tr ++ tr', PolicyStored e.1 e.2 := by
    intro e he i c r n hl hn
    rcases List.mem_append.mp he with he | he
    · rcases hcalls e he with hspawn | ⟨m, hm, -, c', r', hnext, hcall⟩
      · cases hl.symm.trans hspawn
      · cases hl.symm.trans hcall
        have hnone := (congrArg (Option.bind · podCreated) hnext).symm.trans (hfirst m hm)
        cases hn.symm.trans hnone
    · rcases hcalls' e he with hspawn | ⟨m, hm, hstate, c', r', hnext, hcall⟩
      · cases hl.symm.trans hspawn
      · cases hl.symm.trans hcall
        obtain ⟨hname, hpolicy⟩ := hsecond m hm
        rw [hnext, Option.bind_some, hn] at hname
        obtain rfl : n = "a" := by
          simp only [List.mem_cons, List.not_mem_nil, or_false, reduceCtorEq, false_or,
            Option.some.injEq] at hname
          exact Operator.podName_injective hname
        rw [hstate]
        exact hpolicy
  obtain ⟨np, hnp, hselects⟩ := isolated_of_policyStored {} false "" (hrun.trans hrun') hg
    (n := "a") rfl
  exact ⟨_, np, rfl, hnp, hselects⟩

/-- The operator has created the PVC and the pod of a new Agent, and comes to the policy next. -/
theorem pod_without_policy :
    ∃ tr w, Run (AnyStep {} false "") (World.initial Cluster.empty) tr w ∧
      (w.state.objs .pod (Operator.podName "a")).isSome ∧
      w.state.objs .netpol (Operator.netpolName "a") = none := by
  obtain ⟨tr, hrun, -⟩ := Pool.run_advanced Kubelet Server.verbatim.exec
    (w := World.initial Cluster.empty) rfl
    (.reconcile (.sample "a" "uid-1" .running) 0 : Spawns {} _ _) 4
    fun _ _ _ _ => Server.Faulty.served (S := Server.verbatim)
  exact ⟨tr, _, hrun, rfl, rfl⟩

end System
end AgentHosting
