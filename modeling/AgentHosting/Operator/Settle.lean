import AgentHosting.Operator.Reconcile

/-!
# AgentHosting.Operator.Settle

One run that nothing disturbs: objects are stored as sent, deletes are done at once, no call fails.

* `settle`           — the children such a run leaves, as a function of those it finds.
* `reconcile_settles` — the run computes it.
* `Advance.settle_eq` — it is the same from every point a disturbed run may have come to, so
  whatever a run did before it failed, the next one that succeeds ends in the same place.
-/

namespace AgentHosting
namespace Operator

open Kube Prog

/-! ## The pod read back -/

theorem podNeedsUpdate_buildPod (agent : Agent) :
    podNeedsUpdate (buildPod agent) agent = false := by
  simp [podNeedsUpdate, buildPod, buildContainer, containerResources, limitMatches,
    BTreeMap.insert, BTreeMap.get, List.lookup_cons]

def settledPod (agent : Agent) (pod : Option Pod) : Option Pod :=
  if agent.spec.state = .stopped then none
  else match pod with
    | some p => if podNeedsUpdate p agent then some (buildPod agent) else some p
    | none => some (buildPod agent)

theorem settledPod_stopped {agent : Agent} (h : agent.spec.state = .stopped) (pod : Option Pod) :
    settledPod agent pod = none := by
  simp only [settledPod, if_pos h]

theorem settledPod_none {agent : Agent} (h : agent.spec.state ≠ .stopped) :
    settledPod agent none = some (buildPod agent) := by
  simp only [settledPod, if_neg h]

theorem settledPod_some {agent : Agent} (h : agent.spec.state ≠ .stopped) (p : Pod) :
    settledPod agent (some p) =
      if podNeedsUpdate p agent then some (buildPod agent) else some p := by
  simp only [settledPod, if_neg h]

theorem settledPod_buildPod {agent : Agent} (h : agent.spec.state ≠ .stopped) :
    settledPod agent (some (buildPod agent)) = some (buildPod agent) := by
  rw [settledPod_some h, podNeedsUpdate_buildPod]
  rfl

theorem settledPod_idem (agent : Agent) (pod : Option Pod) :
    settledPod agent (settledPod agent pod) = settledPod agent pod := by
  by_cases h : agent.spec.state = .stopped
  · rw [settledPod_stopped h, settledPod_stopped h]
  · cases pod with
    | none => rw [settledPod_none h, settledPod_buildPod h]
    | some p =>
      rw [settledPod_some h]
      by_cases hp : podNeedsUpdate p agent
      · rw [if_pos hp, settledPod_buildPod h]
      · rw [if_neg hp, settledPod_some h, if_neg hp]

/-! ## The status -/

@[simp] theorem baseStatus_nodePorts (agent : Agent) (pod : Option Pod) :
    (baseStatus agent pod).nodePorts = [] := by
  rw [baseStatus]
  split
  · rfl
  · cases pod <;> rfl

theorem withNodePorts_eq (status : AgentStatus) (svc : Except KubeError (Option Service)) :
    ∃ ports, withNodePorts status svc = { status with nodePorts := ports } := by
  rcases svc with e | _ | svc
  · exact ⟨status.nodePorts, rfl⟩
  · exact ⟨status.nodePorts, rfl⟩
  · simp only [withNodePorts]
    cases svc.spec.bind (·.ports) with
    | none => exact ⟨status.nodePorts, rfl⟩
    | some ports => exact ⟨assignedNodePorts ports, rfl⟩

theorem statusPatch_absorb (o : AgentObject) (status : AgentStatus) (ports : List NodePort) :
    (o.patchStatus (statusPatch { status with nodePorts := [] })).patchStatus
        (statusPatch { status with nodePorts := ports }) =
      o.patchStatus (statusPatch { status with nodePorts := ports }) := by
  simp only [statusPatch, AgentObject.patchStatus_object]
  simp only [AgentStatus.toJson, Json.record, Json.mergeField_obj, Option.getD_some]
  rw [Json.mergePatch_absorb]
  intro k
  by_cases hk : k = "node_ports"
  · subst hk
    exact .inr rfl
  · simp [List.lookup_cons, beq_eq_false_iff_ne.mpr hk]

theorem statusPatch_idem (o : AgentObject) (status : AgentStatus) :
    (o.patchStatus (statusPatch status)).patchStatus (statusPatch status) =
      o.patchStatus (statusPatch status) := by
  simp only [statusPatch, AgentObject.patchStatus_object, Json.mergeField_idem]

/-- A report overwrites an earlier one about the same pod that read the same Service, or failed to
read it. -/
theorem report_absorb (agent : Agent) (pod : Option Pod) (o : AgentObject)
    {svc svc' : Except KubeError (Option Service)} (h : svc' = svc ∨ ∃ e, svc' = .error e) :
    (o.patchStatus (statusPatch (withNodePorts (baseStatus agent pod) svc'))).patchStatus
        (statusPatch (withNodePorts (baseStatus agent pod) svc)) =
      o.patchStatus (statusPatch (withNodePorts (baseStatus agent pod) svc)) := by
  rcases h with rfl | ⟨e, rfl⟩
  · exact statusPatch_idem _ _
  · obtain ⟨ports, hports⟩ := withNodePorts_eq (baseStatus agent pod) svc
    have hfailed : withNodePorts (baseStatus agent pod) (.error e) =
        { baseStatus agent pod with nodePorts := [] } := by
      show baseStatus agent pod = _
      rw [← baseStatus_nodePorts agent pod]
    rw [hfailed, hports]
    exact statusPatch_absorb _ _ _

/-! ## The settled children -/

section Settled

variable {ctx : Context} {agent : Agent}

def settledObj (ctx : Context) (agent : Agent) (objs : (k : Kind) → Option (Obj k)) :
    (k : Kind) → Option (Obj k)
  | .pod => settledPod agent (objs .pod)
  | .pvc => some ((objs .pvc).getD (build ctx agent .pvc))
  | .netpol => some ((objs .netpol).getD (build ctx agent .netpol))
  | .service => some ((objs .service).getD (build ctx agent .service))

def reportOf (agent : Agent) (objs : (k : Kind) → Option (Obj k)) : AgentStatus :=
  withNodePorts (baseStatus agent (objs .pod)) (.ok (objs .service))

/-- What a run that nothing disturbs makes of the children. -/
def settle (ctx : Context) (agent : Agent) (c : Children) : Children where
  objs := settledObj ctx agent c.objs
  agent := c.agent.map fun o =>
    o.patchStatus (statusPatch (reportOf agent (settledObj ctx agent c.objs)))

theorem settledObj_of_present {objs : (k : Kind) → Option (Obj k)} {k : Kind} {o : Obj k}
    (hk : k ≠ .pod) (h : objs k = some o) : settledObj ctx agent objs k = some o := by
  cases k with
  | pod => exact (hk rfl).elim
  | _ => simp [settledObj, h]

theorem settledObj_of_missing {objs : (k : Kind) → Option (Obj k)} {k : Kind} (hk : k ≠ .pod)
    (h : objs k = none) : settledObj ctx agent objs k = some (build ctx agent k) := by
  cases k with
  | pod => exact (hk rfl).elim
  | _ => simp [settledObj, h]

theorem settledObj_idem (objs : (k : Kind) → Option (Obj k)) :
    settledObj ctx agent (settledObj ctx agent objs) = settledObj ctx agent objs := by
  funext k
  cases k with
  | pod => exact settledPod_idem agent _
  | _ => rfl

theorem settle_put {c : Children} {k : Kind} {o : Option (Obj k)}
    (h : settledObj ctx agent (c.put k o).objs k = settledObj ctx agent c.objs k) :
    settle ctx agent (c.put k o) = settle ctx agent c := by
  have hobjs : settledObj ctx agent (c.put k o).objs = settledObj ctx agent c.objs := by
    funext k'
    by_cases hk : k' = k
    · subst hk
      exact h
    · have hsame := Children.put_other c hk o
      cases k' <;> simp only [settledObj, hsame]
  simp only [settle, hobjs, Children.put_agent]

/-- Where the children are all in place there is nothing left to do but report. -/
theorem settledObj_of_done {c : Children} (h : Done Server.verbatim agent c) :
    settledObj ctx agent c.objs = c.objs := by
  funext k
  by_cases hk : k = .pod
  · subst hk
    show settledPod agent (c.objs .pod) = c.objs .pod
    have hpod := h.pod
    by_cases hstate : agent.spec.state = .stopped
    · rw [PodReady, if_pos hstate] at hpod
      rcases hpod with hnone | hgraceful
      · rw [settledPod_stopped hstate, hnone]
      · cases hgraceful
    · rw [PodReady, if_neg hstate] at hpod
      obtain ⟨p, hp, hok | hnew⟩ := hpod
      · rw [hp, settledPod_some hstate, hok]
        rfl
      · subst hnew
        rw [hp]
        exact settledPod_buildPod hstate
  · obtain ⟨o, ho⟩ := Option.isSome_iff_exists.mp (h.present k hk)
    rw [settledObj_of_present hk ho, ho]

/-- No move of a run changes what a successful run makes of the children. -/
theorem Advance.settle_eq {c c' : Children} (h : Advance Server.verbatim ctx agent c c') :
    settle ctx agent c' = settle ctx agent c := by
  cases h with
  | @ensure k hk hnone =>
    refine settle_put ?_
    rw [settledObj_of_missing hk hnone]
    exact settledObj_of_present hk (Children.put_same ..)
  | createPod hstate hnone =>
    refine settle_put ?_
    simp only [settledObj, Children.put_same, hnone]
    rw [settledPod_none hstate]
    exact settledPod_buildPod hstate
  | @dropStale p hstate hp hneed =>
    refine settle_put ?_
    have hgone : Server.verbatim.remains (k := .pod) p = none := rfl
    simp only [settledObj, Children.put_same, hp, hgone]
    rw [settledPod_none hstate, settledPod_some hstate, if_pos hneed]
  | dropStopped hstate _ =>
    refine settle_put ?_
    simp only [settledObj]
    rw [settledPod_stopped hstate, settledPod_stopped hstate]
  | @report o svc hdone hstored hread =>
    simp only [settle, settledObj_of_done hdone, hstored, Option.map_some]
    exact Children.ext rfl (congrArg some (report_absorb agent _ o hread))

theorem advances_settle_eq {c c' : Children}
    (h : Relation.ReflTransGen (Advance Server.verbatim ctx agent) c c') :
    settle ctx agent c' = settle ctx agent c := by
  induction h with
  | refl => rfl
  | tail _ hs ih => exact hs.settle_eq.trans ih

theorem settle_idem (c : Children) :
    settle ctx agent (settle ctx agent c) = settle ctx agent c := by
  refine Children.ext (settledObj_idem c.objs) ?_
  cases hc : c.agent with
  | none => simp only [settle, hc, Option.map_none]
  | some o => simp only [settle, hc, Option.map_some, settledObj_idem, statusPatch_idem]

end Settled

/-! ## The run -/

section Run

variable (ctx : Context) (agent : Agent)

theorem run_ensureExists (S : Server) (k : Kind) (s : Cluster) :
    run S.exec (ensureExists k (childName agent.nameAny k) (build ctx agent k)).run s =
      (.ok (), s.set k (childName agent.nameAny k)
        (some (((view s agent.nameAny).objs k).getD (S.stored (build ctx agent k))))) := by
  rw [ensureExists_run, run_call, Server.exec_getOpt]
  cases ho : s.objs k (childName agent.nameAny k) with
  | some o =>
    have hview : (view s agent.nameAny).objs k = some o := ho
    simp only [hview, Option.getD_some, run_ret]
    rw [← ho, Cluster.set_get]
  | none =>
    have hview : (view s agent.nameAny).objs k = none := ho
    simp only [hview, Option.getD_none, run_call, Server.exec, objName_build, ho, run_ret]

theorem run_podStep (s : Cluster) :
    run Server.verbatim.exec (podStep agent) s = (.ok (), s.set .pod (podName agent.nameAny)
      (settledPod agent ((view s agent.nameAny).objs .pod))) := by
  have hname : objName (k := .pod) (buildPod agent) = podName agent.nameAny := rfl
  show run _ _ _ = (_, s.set .pod (podName agent.nameAny)
    (settledPod agent (s.objs .pod (podName agent.nameAny))))
  rw [podStep]
  by_cases hstate : agent.spec.state = .stopped
  · rw [if_pos hstate, deletePodIfExists_run, run_call, settledPod_stopped hstate]
    cases ho : s.objs .pod (podName agent.nameAny) with
    | some p =>
      simp only [Server.exec, ho, run_call, run_ret]
      rfl
    | none =>
      simp only [Server.exec, ho, run_ret]
      rw [← ho, Cluster.set_get]
  · rw [if_neg hstate, reconcilePod_run, run_call]
    cases ho : s.objs .pod (podName agent.nameAny) with
    | some p =>
      rw [settledPod_some hstate]
      by_cases hneed : podNeedsUpdate p agent
      · have hgone : Server.verbatim.remains (k := .pod) p = none := rfl
        simp only [Server.exec, ho, hneed, if_true, run_call, hname, hgone, Cluster.set_same,
          Cluster.set_set, run_ret]
        rfl
      · simp only [Server.exec, ho, hneed, if_false, Bool.false_eq_true, run_ret]
        rw [← ho, Cluster.set_get]
    | none =>
      rw [settledPod_none hstate]
      simp only [Server.exec, ho, run_call, hname, run_ret]
      rfl

theorem run_updateStatus (S : Server) (s : Cluster) :
    run S.exec (updateStatus agent).run s =
      (if (s.agents agent.nameAny).isSome then .ok () else .error notFound,
        s.setAgent agent.nameAny ((s.agents agent.nameAny).map fun o =>
          o.patchStatus (statusPatch (reportOf agent (view s agent.nameAny).objs)))) := by
  rw [updateStatus_run]
  by_cases hstate : agent.spec.state = .stopped
  · simp only [if_pos hstate, run_call, run_ret, Server.exec_getOpt, Server.exec_patchAgentStatus,
      reportOf, baseStatus]
    rfl
  · simp only [if_neg hstate, run_call, run_ret, Server.exec_getOpt, Server.exec_patchAgentStatus,
      reportOf, baseStatus]
    rfl

/-- A run that nothing disturbs settles the children, and returns Ok when its Agent is stored. -/
theorem reconcile_settles (s : Cluster) :
    (run Server.verbatim.exec (reconcile ctx agent).run s).1 =
        (if (s.agents agent.nameAny).isSome then .ok ⟨30⟩ else .error notFound) ∧
      view (run Server.verbatim.exec (reconcile ctx agent).run s).2 agent.nameAny =
        settle ctx agent (view s agent.nameAny) := by
  obtain ⟨s1, hr1, hv1⟩ : ∃ s1, run Server.verbatim.exec (reconcilePvc ctx agent).run s =
      (.ok (), s1) ∧ view s1 agent.nameAny = _ :=
    ⟨_, run_ensureExists ctx agent _ .pvc s, view_set ..⟩
  obtain ⟨s2, hr2, hv2⟩ : ∃ s2, run Server.verbatim.exec (podStep agent) s1 = (.ok (), s2) ∧
      view s2 agent.nameAny = _ :=
    ⟨_, run_podStep agent s1, view_set s1 agent.nameAny .pod _⟩
  obtain ⟨s3, hr3, hv3⟩ : ∃ s3, run Server.verbatim.exec (reconcileNetworkPolicy agent).run s2 =
      (.ok (), s3) ∧ view s3 agent.nameAny = _ :=
    ⟨_, run_ensureExists ctx agent _ .netpol s2, view_set ..⟩
  obtain ⟨s4, hr4, hv4⟩ : ∃ s4, run Server.verbatim.exec (reconcileService agent).run s3 =
      (.ok (), s4) ∧ view s4 agent.nameAny = _ :=
    ⟨_, run_ensureExists ctx agent _ .service s3, view_set ..⟩
  -- the four steps touch four different children
  have hobjs : (view s4 agent.nameAny).objs = settledObj ctx agent (view s agent.nameAny).objs := by
    funext k
    cases k <;> simp [hv4, hv3, hv2, hv1, Children.put_other, settledObj]
  have hagent : s4.agents agent.nameAny = s.agents agent.nameAny := by
    have : (view s4 agent.nameAny).agent = (view s agent.nameAny).agent := by
      rw [hv4, hv3, hv2, hv1]
      rfl
    exact this
  have hreport := run_updateStatus agent Server.verbatim s4
  rw [hagent, hobjs] at hreport
  rw [reconcile_run, run_andThen_ok hr1, run_andThen_ok hr2, run_andThen_ok hr3,
    run_andThen_ok hr4]
  have hfinal : view (s4.setAgent agent.nameAny ((s.agents agent.nameAny).map fun o =>
      o.patchStatus (statusPatch (reportOf agent
        (settledObj ctx agent (view s agent.nameAny).objs))))) agent.nameAny =
      settle ctx agent (view s agent.nameAny) := by
    rw [view_setAgent]
    exact Children.ext hobjs rfl
  cases ho : (s.agents agent.nameAny).isSome with
  | true =>
    rw [ho, if_pos rfl] at hreport
    rw [run_andThen_ok hreport, run_ret]
    exact ⟨rfl, hfinal⟩
  | false =>
    rw [ho, if_neg Bool.false_ne_true] at hreport
    rw [run_andThen_error hreport]
    exact ⟨rfl, hfinal⟩

end Run

end Operator
end AgentHosting
