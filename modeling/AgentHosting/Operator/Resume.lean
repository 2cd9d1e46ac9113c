import AgentHosting.Operator.Settle

/-!
# AgentHosting.Operator.Resume

A run may fail anywhere, with the failed call done or not; the next one picks up where it stopped.

* `Attempt`           — one run of the controller in which any call may fail.
* `reconcile_resumes` — after any number of attempts, a run that nothing disturbs leaves the cluster
  that one such run leaves from the start, and the run after that one changes nothing.
-/

namespace AgentHosting
namespace Operator

open Kube Prog

section Resume

variable {ctx : Context} {agent : Agent}

/-- A run for the Agent, with whatever status its copy carries; any call may fail, with or without
its effect. -/
def Attempt (ctx : Context) (agent : Agent) (s s' : Cluster) : Prop :=
  ∃ status tr r, Exec Server.verbatim.Faulty Alone
    (reconcile ctx { agent with status := status }).run s tr r s'

theorem keepsView_alone (name : String) : KeepsView Alone name := fun _ _ h => h.elim

theorem Attempt.effect {s s' : Cluster} (h : Attempt ctx agent s s') :
    SameElsewhere agent.nameAny s s' ∧
      settle ctx agent (view s' agent.nameAny) = settle ctx agent (view s agent.nameAny) := by
  obtain ⟨status, tr, r, h⟩ := h
  rw [reconcile_status] at h
  refine ⟨?_, advances_settle_eq (reconcile_advances (keepsView_alone _) h).moves⟩
  refine exec_invariant (I := SameElsewhere agent.nameAny s) ?_ ?_ h (reconcile_calls ctx agent)
    (.refl ..)
  · exact fun _ _ _ he => he.elim
  · exact fun _ _ _ _ hi hc hs => hi.trans (hc.sameElsewhere hs)

theorem attempts_effect {s s' : Cluster}
    (h : Relation.ReflTransGen (Attempt ctx agent) s s') :
    SameElsewhere agent.nameAny s s' ∧
      settle ctx agent (view s' agent.nameAny) = settle ctx agent (view s agent.nameAny) := by
  induction h with
  | refl => exact ⟨.refl .., rfl⟩
  | tail _ hs ih =>
    obtain ⟨hsame, hsettle⟩ := hs.effect
    exact ⟨ih.1.trans hsame, hsettle.trans ih.2⟩

theorem attempt_run (ctx : Context) (agent : Agent) (s : Cluster) :
    Attempt ctx agent s (run Server.verbatim.exec (reconcile ctx agent).run s).2 :=
  ⟨agent.status, _, _, Server.exec_of_run ..⟩

/-! ## A settled cluster -/

def Writes : Call → Prop
  | .create _ _ | .delete _ _ | .createAgent _ | .deleteAgent _ => True
  | _ => False

/-- A part of a run that succeeds, writes nothing and leaves the cluster as it is. -/
def Quiet (p : Prog Call Answer (Except KubeError Unit)) (s : Cluster) : Prop :=
  run Server.verbatim.exec p s = (.ok (), s) ∧
    ∀ e ∈ trace Server.verbatim.exec p s, ¬ Writes e.call

theorem Quiet.andThen {α : Type} {p : Prog Call Answer (Except KubeError Unit)} {s : Cluster}
    {f : Unit → Prog Call Answer (Except KubeError α)} (hp : Quiet p s)
    (hf : ∀ e ∈ trace Server.verbatim.exec (f ()) s, ¬ Writes e.call) :
    ∀ e ∈ trace Server.verbatim.exec (Prog.andThen p f) s, ¬ Writes e.call := by
  intro e he
  rw [trace_andThen, hp.1] at he
  rcases List.mem_append.mp he with he | he
  · exact hp.2 e he
  · exact hf e he

theorem ensureExists_quiet (ctx : Context) {k : Kind} {s : Cluster}
    (h : ((view s agent.nameAny).objs k).isSome) :
    Quiet (ensureExists k (childName agent.nameAny k) (build ctx agent k)).run s := by
  obtain ⟨o, ho⟩ := Option.isSome_iff_exists.mp h
  have hs : s.objs k (childName agent.nameAny k) = some o := ho
  rw [ensureExists_run, Quiet]
  simp [run_call, trace, hs, Writes]

theorem podStep_quiet {s : Cluster}
    (h : settledPod agent ((view s agent.nameAny).objs .pod) = (view s agent.nameAny).objs .pod) :
    Quiet (podStep agent) s := by
  rw [podStep]
  cases ho : s.objs .pod (podName agent.nameAny) with
  | none =>
    have hv : (view s agent.nameAny).objs .pod = none := ho
    by_cases hstate : agent.spec.state = .stopped
    · rw [if_pos hstate, deletePodIfExists_run, Quiet]
      simp [run_call, trace, ho, Writes]
    · rw [hv, settledPod_none hstate] at h
      cases h
  | some p =>
    have hv : (view s agent.nameAny).objs .pod = some p := ho
    by_cases hstate : agent.spec.state = .stopped
    · rw [hv, settledPod_stopped hstate] at h
      cases h
    · rw [hv, settledPod_some hstate] at h
      have hok : podNeedsUpdate p agent = false := by
        by_cases hneed : podNeedsUpdate p agent
        · rw [if_pos hneed] at h
          rw [← Option.some.inj h]
          exact podNeedsUpdate_buildPod agent
        · simpa using hneed
      rw [if_neg hstate, reconcilePod_run, Quiet]
      simp [run_call, trace, ho, hok, Writes]

theorem updateStatus_quiet (agent : Agent) (s : Cluster) :
    ∀ e ∈ trace Server.verbatim.exec (updateStatus agent).run s, ¬ Writes e.call := by
  have hcalls : (updateStatus agent).run.AllCalls fun c => ¬ Writes c :=
    updateStatus_calls id id fun _ => id
  exact trace_allCalls hcalls s

theorem reconcile_quiet {s : Cluster}
    (h : settle ctx agent (view s agent.nameAny) = view s agent.nameAny) :
    ∀ e ∈ trace Server.verbatim.exec (reconcile ctx agent).run s, ¬ Writes e.call := by
  have hobjs : settledObj ctx agent (view s agent.nameAny).objs = (view s agent.nameAny).objs :=
    congrArg Children.objs h
  have hthere : ∀ k, k ≠ .pod → ((view s agent.nameAny).objs k).isSome := by
    intro k hk
    rw [← congrFun hobjs k]
    cases k with
    | pod => exact (hk rfl).elim
    | _ => rfl
  rw [reconcile_run]
  refine Quiet.andThen (ensureExists_quiet ctx (hthere .pvc (by decide))) ?_
  refine Quiet.andThen (podStep_quiet (congrFun hobjs .pod)) ?_
  refine Quiet.andThen (ensureExists_quiet ctx (hthere .netpol (by decide))) ?_
  refine Quiet.andThen (ensureExists_quiet ctx (hthere .service (by decide))) ?_
  intro e he
  rw [trace_andThen] at he
  rcases List.mem_append.mp he with he | he
  · exact updateStatus_quiet agent s e he
  · revert he
    split <;> simp [trace]

/-! ## The result -/

/-- After any number of attempts a run that nothing disturbs ends where one such run from the start
ends, successfully when the Agent is there; the next run creates and deletes nothing and leaves the
cluster as it is. -/
theorem reconcile_resumes {s s' : Cluster} (h : Relation.ReflTransGen (Attempt ctx agent) s s') :
    (run Server.verbatim.exec (reconcile ctx agent).run s').2 =
        (run Server.verbatim.exec (reconcile ctx agent).run s).2 ∧
      ((s.agents agent.nameAny).isSome →
        (run Server.verbatim.exec (reconcile ctx agent).run s').1 = .ok ⟨30⟩) ∧
      let t := (run Server.verbatim.exec (reconcile ctx agent).run s).2
      (∀ e ∈ trace Server.verbatim.exec (reconcile ctx agent).run t, ¬ Writes e.call) ∧
        (run Server.verbatim.exec (reconcile ctx agent).run t).2 = t := by
  have hfinal : ∀ {s₁ s₂ : Cluster}, Relation.ReflTransGen (Attempt ctx agent) s₁ s₂ →
      (run Server.verbatim.exec (reconcile ctx agent).run s₂).2 =
        (run Server.verbatim.exec (reconcile ctx agent).run s₁).2 := by
    intro s₁ s₂ h
    have hafter := attempts_effect (h.tail (attempt_run ctx agent s₂))
    have hdirect := attempts_effect (.single (attempt_run ctx agent s₁))
    refine hafter.1.eq_of_view hdirect.1 ?_
    rw [(reconcile_settles ctx agent s₂).2, (reconcile_settles ctx agent s₁).2]
    exact (attempts_effect h).2
  refine ⟨hfinal h, fun hstored => ?_, ?_, hfinal (.single (attempt_run ctx agent s))⟩
  · have hagent := congrArg (fun c => c.agent.isSome) (attempts_effect h).2
    have hstored' : (s'.agents agent.nameAny).isSome := by
      simpa [settle, view, hstored] using hagent
    rw [(reconcile_settles ctx agent s').1, if_pos hstored']
  · refine reconcile_quiet ?_
    rw [(reconcile_settles ctx agent s).2, settle_idem]

theorem reconcile_resumes_unacknowledged :
    let agent := Agent.sample "a" "uid-1" .running
    let s := agent.alone
    let s' := s.set .pvc "agent-a-data" (some (buildPvc none agent))
    (run Server.verbatim.exec (reconcile {} agent).run s').2 =
        (run Server.verbatim.exec (reconcile {} agent).run s).2 ∧
      (run Server.verbatim.exec (reconcile {} agent).run s').1 = .ok ⟨30⟩ := by
  intro agent s s'
  have hattempt : Attempt {} agent s s' :=
    ⟨agent.status, _, _, .call (.served) (.call (.applied ⟨none, "timeout"⟩) .ret)⟩
  obtain ⟨hsame, hok, -⟩ := reconcile_resumes (.single hattempt)
  exact ⟨hsame, hok rfl⟩

end Resume

end Operator
end AgentHosting
