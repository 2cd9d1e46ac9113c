import AgentHosting.Lib.Commute
import AgentHosting.System.Tasks

/-!
# AgentHosting.System.Interference

Reconcile runs of different Agents at once. The four names of the children of an Agent determine
its name, so a call made for one Agent neither sees nor changes what a call for another does.

* `Confined`               — a call that reads and writes only what belongs to one Agent.
* `confined_commute`       — confined calls of different Agents commute.
* `agents_do_not_interfere` — every interleaving leaves the store that the runs one after another
  leave, in any order.
-/

namespace AgentHosting
namespace System

open Kube Prog Operator

/-! ## Calls that belong to one Agent -/

/-- The call changes only the Agent called `name` and its children, and its answer and what it makes
of these depend on these alone. -/
structure Confined (S : Server) (name : String) (c : Call) : Prop where
  writes : ∀ s, SameElsewhere name s (S.exec s c).2
  answer : ∀ s s', view s' name = view s name → (S.exec s' c).1 = (S.exec s c).1
  result : ∀ s s', view s' name = view s name →
    view (S.exec s' c).2 name = view (S.exec s c).2 name

theorem operatorCall_confined (S : Server) {ctx : Context} {agent : Agent} {c : Call}
    (hc : OperatorCall ctx agent c) : Confined S agent.nameAny c := by
  have hread : ∀ {s s' : Cluster}, view s' agent.nameAny = view s agent.nameAny → ∀ k,
      s'.objs k (childName agent.nameAny k) = s.objs k (childName agent.nameAny k) :=
    fun h k => congrFun (congrArg Children.objs h) k
  have hagent : ∀ {s s' : Cluster}, view s' agent.nameAny = view s agent.nameAny →
      s'.agents agent.nameAny = s.agents agent.nameAny := fun h => congrArg Children.agent h
  refine ⟨fun s => hc.sameElsewhere .served, ?_, ?_⟩
  · intro s s' h
    cases hc with
    | read k => exact congrArg Except.ok (hread h k)
    | create k =>
      simp only [Server.exec, objName_build, hread h k]
      split <;> rfl
    | deletePod =>
      have hpod := hread h .pod
      simp only [Server.exec, childName] at hpod ⊢
      rw [hpod]
      split <;> rfl
    | sleep secs => rfl
    | report patch =>
      rw [Server.exec_patchAgentStatus, Server.exec_patchAgentStatus, hagent h]
  · intro s s' h
    cases hc with
    | read k => exact h
    | create k =>
      simp only [Server.exec, objName_build, hread h k]
      split
      · exact h
      · rw [view_set, view_set, h]
    | deletePod =>
      have hpod := hread h .pod
      simp only [Server.exec, childName] at hpod ⊢
      rw [hpod]
      split
      · rename_i p _
        show view (s'.set .pod (childName agent.nameAny .pod) (S.remains (k := .pod) p)) _ =
          view (s.set .pod (childName agent.nameAny .pod) (S.remains (k := .pod) p)) _
        rw [view_set, view_set, h]
      · exact h
    | sleep secs => exact h
    | report patch =>
      rw [Server.exec_patchAgentStatus, Server.exec_patchAgentStatus, view_setAgent, view_setAgent,
        hagent h, h]

theorem confined_commute {S : Server} {a b : String} (hne : a ≠ b) {c d : Call}
    (hc : Confined S a c) (hd : Confined S b d) : Commute S.exec c d := by
  refine ⟨fun s => ?_, fun s => ?_, fun s => ?_⟩
  · exact hc.answer s _ ((hd.writes s).view_eq hne)
  · exact hd.answer s _ ((hc.writes s).view_eq hne.symm)
  · have hviewB : view (S.exec (S.exec s c).2 d).2 b = view (S.exec (S.exec s d).2 c).2 b :=
      (hd.result s _ ((hc.writes s).view_eq hne.symm)).trans
        ((hc.writes (S.exec s d).2).view_eq hne.symm).symm
    have hviewA : view (S.exec (S.exec s d).2 c).2 a = view (S.exec s c).2 a :=
      hc.result s _ ((hd.writes s).view_eq hne)
    -- outside the objects of `b`, both orders leave what `c` alone leaves
    have hother : SameElsewhere b (S.exec s c).2 (S.exec (S.exec s d).2 c).2 := by
      refine ⟨fun k n hn => ?_, fun n hn => ?_⟩
      · by_cases hna : n = childName a k
        · subst hna
          exact congrFun (congrArg Children.objs hviewA) k
        · rw [(hc.writes _).objs k n hna, (hd.writes s).objs k n hn, (hc.writes s).objs k n hna]
      · by_cases hna : n = a
        · subst hna
          exact congrArg Children.agent hviewA
        · rw [(hc.writes _).agents n hna, (hd.writes s).agents n hn, (hc.writes s).agents n hna]
    exact (hd.writes _).eq_of_view hother hviewB

/-! ## One run for each Agent -/

/-- The pool in which every Agent of the list is being reconciled. -/
def World.reconciling (ctx : Context) (agents : List Agent) (s : Cluster) : World Unit where
  state := s
  progs
    | .operator name () => (agents.find? fun a => a.nameAny = name).map (reconcileTask ctx)
    | .api _ => none

def runOf (agent : Agent) : TaskId Unit := .operator agent.nameAny ()

/-- The reconciles one after another. -/
def oneByOne (S : Server) (ctx : Context) (order : List Agent) (s : Cluster) : Cluster :=
  order.foldl (fun s agent => (run S.exec (reconcile ctx agent).run s).2) s

variable {S : Server} {ctx : Context} {agents : List Agent}

theorem reconciling_runOf (hnames : agents.Pairwise fun a b => a.nameAny ≠ b.nameAny)
    {agent : Agent}
    (h : agent ∈ agents) (s : Cluster) :
    (World.reconciling ctx agents s).progs (runOf agent) = some (reconcileTask ctx agent) := by
  show (agents.find? _).map _ = _
  cases hfind : agents.find? fun a => a.nameAny = agent.nameAny with
  | none => exact absurd (List.find?_eq_none.mp hfind agent h) (by simp)
  | some other =>
    have hname : other.nameAny = agent.nameAny := by simpa using List.find?_some hfind
    rw [eq_of_nameAny hnames (List.mem_of_find?_eq_some hfind) h hname]
    rfl

theorem reconciling_cases {s : Cluster} {i : TaskId Unit} {p : Prog Call Answer Outcome}
    (h : (World.reconciling ctx agents s).progs i = some p) :
    ∃ agent ∈ agents, i = runOf agent ∧ p = reconcileTask ctx agent := by
  cases i with
  | operator name slot =>
    obtain ⟨agent, hfind, rfl⟩ := Option.map_eq_some_iff.mp h
    have hname : agent.nameAny = name := by simpa using List.find?_some hfind
    exact ⟨agent, List.mem_of_find?_eq_some hfind, by rw [runOf, hname], rfl⟩
  | api n => cases h

/-- Each task makes calls that belong to its Agent. -/
def OwnCalls (S : Server) (agents : List Agent) (i : TaskId Unit) (c : Call) : Prop :=
  ∃ agent ∈ agents, i = runOf agent ∧ Confined S agent.nameAny c

theorem reconciling_calls (S : Server) (ctx : Context) (agents : List Agent) (s : Cluster) :
    (World.reconciling ctx agents s).TasksIn (OwnCalls S agents) := by
  intro i p hp
  obtain ⟨agent, hagent, rfl, rfl⟩ := reconciling_cases hp
  refine AllCalls.bind ?_ fun _ => trivial
  exact (reconcile_calls ctx agent).mono fun c hc =>
    ⟨agent, hagent, rfl, operatorCall_confined S hc⟩

theorem ownCalls_commute {i j : TaskId Unit} (hne : i ≠ j) {c d : Call}
    (hc : OwnCalls S agents i c) (hd : OwnCalls S agents j d) : Commute S.exec c d := by
  obtain ⟨a, -, rfl, hc⟩ := hc
  obtain ⟨b, -, rfl, hd⟩ := hd
  exact confined_commute (fun h => hne (by rw [runOf, runOf, h])) hc hd

theorem finish_reconciling (hnames : agents.Pairwise fun a b => a.nameAny ≠ b.nameAny)
    {order : List Agent} (hsub : ∀ agent ∈ order, agent ∈ agents) (s : Cluster) :
    (World.reconciling ctx agents s).finish S.exec (order.map runOf) = oneByOne S ctx order s := by
  rw [Pool.finish, List.foldl_map]
  refine List.foldl_ext _ _ _ fun s' agent h => ?_
  rw [Pool.finishTask, reconciling_runOf hnames (hsub agent h)]
  show (run S.exec (reconcileTask ctx agent) s').2 = _
  rw [reconcileTask, run_bind]
  rfl

/-- For Agents of different names: however the calls of their reconcile runs interleave, the store
is the one the runs leave one after another, in any order; every call belongs to the Agent it is
made for; and no two of their children have one name. -/
theorem agents_do_not_interfere (S : Server) (ctx : Context) {agents : List Agent}
    (hnames : agents.Pairwise fun a b => a.nameAny ≠ b.nameAny) (s : Cluster) {w : World Unit}
    {tr : List (World Unit × Label Unit)}
    (hrun : Run (Pool.Step (fun _ _ => False) (Answers S.exec) Alone)
      (World.reconciling ctx agents s) tr w) :
    ((∀ i p, w.progs i = some p → ∃ a, p = .ret a) →
      ∀ order, order.Perm agents → w.state = oneByOne S ctx order s) ∧
    (∀ e ∈ tr, ∀ i c r, e.2 = .call i c r →
      ∃ agent ∈ agents, i = runOf agent ∧ Confined S agent.nameAny c) ∧
    agents.Pairwise fun a b => ∀ k, childName a.nameAny k ≠ childName b.nameAny k := by
  have htasks := reconciling_calls S ctx agents s
  refine ⟨fun hended order horder => ?_, fun e he i c r hcall => ?_, ?_⟩
  · have hnodup : (order.map runOf).Nodup := by
      refine List.pairwise_map.mpr (((horder.pairwise_iff fun h => h.symm).mpr hnames).imp ?_)
      exact fun hne h => hne (TaskId.operator.inj h).1
    rw [← finish_reconciling hnames (fun agent h => horder.mem_iff.mp h) s]
    refine Pool.finish_of_run (fun _ _ => id) hnodup
      (fun i j _ _ hne c d => ownCalls_commute hne) hrun htasks (fun i p hp => ?_) hended
    obtain ⟨agent, hagent, rfl, -⟩ := reconciling_cases hp
    exact List.mem_map_of_mem (horder.mem_iff.mpr hagent)
  · have htasks' := hrun.invariant_at
      (fun _ _ _ ht hs => Pool.tasks_step (fun _ _ => False.elim) ht hs) htasks e he
    obtain ⟨w', hs⟩ := hrun.step_of_mem e he
    rw [hcall] at hs
    cases hs with
    | call hp _ => exact (htasks' _ _ hp).1
  · exact hnames.imp fun hne k h => hne (childName_injective h)

/-- Two Agents, and nothing else. -/
def samplePair : List Agent :=
  [Agent.sample "a" "uid-1" .running, Agent.sample "b" "uid-2" .running]

def samplePairStored : Cluster :=
  (Agent.sample "a" "uid-1" .running).alone.setAgent "b"
    (some ⟨(Agent.sample "b" "uid-2" .running).metadata,
      (Agent.sample "b" "uid-2" .running).spec.toJson, none⟩)

/-- The two runs taking turns, call by call. -/
def samplePairTurns : World Unit :=
  (World.reconciling {} samplePair samplePairStored).schedule Server.verbatim.exec
    (List.replicate 11 [.operator "a" (), .operator "b" ()]).flatten

theorem agents_do_not_interfere_turns :
    samplePairTurns.state =
      oneByOne Server.verbatim {} samplePair.reverse samplePairStored := by
  have hrun : Run (Pool.Step (fun _ _ => False) (Answers Server.verbatim.exec) Alone)
      (World.reconciling {} samplePair samplePairStored) _ samplePairTurns :=
    Pool.run_schedule Server.verbatim.exec (fun _ _ => rfl) _ _
  have hended : ∀ i p, samplePairTurns.progs i = some p → ∃ a, p = .ret a := by
    intro i p hp
    by_cases ha : i = .operator "a" ()
    · subst ha
      cases hp
      exact ⟨_, rfl⟩
    · by_cases hb : i = .operator "b" ()
      · subst hb
        cases hp
        exact ⟨_, rfl⟩
      · rw [samplePairTurns, Pool.schedule_other (by simp [ha, hb])] at hp
        obtain ⟨agent, hagent, hi, -⟩ := reconciling_cases hp
        rcases List.mem_pair.mp hagent with rfl | rfl
        · exact (ha hi).elim
        · exact (hb hi).elim
  exact (agents_do_not_interfere Server.verbatim {} (.cons (by decide) (.cons (by simp) .nil))
    samplePairStored hrun).1 hended _ samplePair.reverse_perm

end System
end AgentHosting
