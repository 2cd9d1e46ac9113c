import AgentHosting.Operator.Reconcile

/-!
# AgentHosting.Operator.Races

One run among pods that come and go: a deleted pod stays, terminating, until the environment removes
it, and restarts delete pods behind the run's back. Every call is carried out; the only errors are
NotFound for a pod that is gone and AlreadyExists for a name that is still taken.

* `Smooth`              — the event does not meet such a pod.
* `reconcile_ok_iff`    — a run returns Ok exactly when all its events are smooth.
* `reconcile_trips`     — both kinds of event happen, and end the run.
-/

namespace AgentHosting
namespace Operator

open Kube Prog

/-- The environment finishes a pod's deletion, or has a pod deleted. -/
inductive PodRemoval (S : Server) : Cluster → Cluster → Prop where
  | finish {s : Cluster} {n : String} {p : Pod} : s.objs .pod n = some p →
      p.metadata.deletionTimestamp.isSome → PodRemoval S s (s.set .pod n none)
  | restart {s : Cluster} {n : String} {p : Pod} : s.objs .pod n = some p →
      PodRemoval S s (s.set .pod n (S.remains (k := .pod) p))

/-- A delete finds its pod, and a create finds its name free. -/
def Smooth (e : Event Cluster Call Answer) : Prop :=
  (∀ n, e.call = .delete .pod n → (e.pre.objs .pod n).isSome) ∧
    ∀ p : Pod, e.call = .create .pod p → e.pre.objs .pod (objName (k := .pod) p) = none

section Races

variable {S : Server} {agent : Agent}

/-! ## Calls that are carried out -/

theorem answers_getOpt {s s' : Cluster} {k : Kind} {n : String} {r : Answer (.getOpt k n)} :
    Answers S.exec s (.getOpt k n) r s' ↔ r = .ok (s.objs k n) ∧ s' = s := by
  simp only [Answers, Server.exec_getOpt, Prod.mk.injEq]
  exact ⟨fun h => ⟨h.1.symm, h.2.symm⟩, fun h => ⟨h.1.symm, h.2.symm⟩⟩

theorem answers_sleep {s s' : Cluster} {n : Nat} {r : Answer (.sleep n)} :
    Answers S.exec s (.sleep n) r s' ↔ s' = s := by
  simp only [Answers, Server.exec_sleep, Prod.mk.injEq, true_and]
  exact ⟨Eq.symm, Eq.symm⟩

theorem answers_create {s s' : Cluster} {k : Kind} {o : Obj k} {r : Answer (.create k o)}
    (h : Answers S.exec s (.create k o) r s') :
    (s.objs k (objName o) = none ∧ r = .ok () ∧ s'.agents = s.agents) ∨
      ((s.objs k (objName o)).isSome ∧ r = .error alreadyExists ∧ s' = s) := by
  simp only [Answers, Server.exec] at h
  split at h
  · rename_i x hx
    obtain ⟨rfl, rfl⟩ := Prod.mk.inj h
    exact .inr ⟨by rw [hx]; rfl, rfl, rfl⟩
  · rename_i hx
    obtain ⟨rfl, rfl⟩ := Prod.mk.inj h
    exact .inl ⟨hx, rfl, rfl⟩

theorem answers_delete {s s' : Cluster} {k : Kind} {n : String} {r : Answer (.delete k n)}
    (h : Answers S.exec s (.delete k n) r s') :
    ((s.objs k n).isSome ∧ r = .ok () ∧ s'.agents = s.agents) ∨
      (s.objs k n = none ∧ r = .error notFound ∧ s' = s) := by
  simp only [Answers, Server.exec] at h
  split at h
  · rename_i x hx
    obtain ⟨rfl, rfl⟩ := Prod.mk.inj h
    exact .inl ⟨by rw [hx]; rfl, rfl, rfl⟩
  · rename_i hx
    obtain ⟨rfl, rfl⟩ := Prod.mk.inj h
    exact .inr ⟨hx, rfl, rfl⟩

/-! ## The environment -/

/-- The environment leaves Agents and everything but pods alone. -/
theorem podRemoval_keeps {s s' : Cluster} (h : Relation.ReflTransGen (PodRemoval S) s s') :
    s'.agents = s.agents ∧ ∀ k, k ≠ .pod → s'.objs k = s.objs k := by
  induction h with
  | refl => exact ⟨rfl, fun _ _ => rfl⟩
  | tail _ hs ih =>
    refine ⟨?_, fun k hk => ?_⟩
    · cases hs <;> exact ih.1
    · rw [← ih.2 k hk]
      cases hs <;> exact funext fun n => Cluster.set_other_kind _ hk _ _ _

/-! ## The parts of a run -/

/-- A part of a run succeeds exactly when all its events are smooth. -/
def OkIff {α : Type} (agent : Agent) (tr : List (Event Cluster Call Answer))
    (r : Except KubeError α) (s' : Cluster) : Prop :=
  ((∃ a, r = .ok a) ↔ ∀ e ∈ tr, Smooth e) ∧ (s'.agents agent.nameAny).isSome

theorem OkIff.keep {α : Type} {tr : List (Event Cluster Call Answer)} {r : Except KubeError α}
    {s s' : Cluster} (h : OkIff agent tr r s) (hs : Relation.ReflTransGen (PodRemoval S) s s') :
    OkIff agent tr r s' :=
  ⟨h.1, by rw [(podRemoval_keeps hs).1]; exact h.2⟩

theorem OkIff.ok {α : Type} {a : α} {tr : List (Event Cluster Call Answer)} {s' : Cluster}
    (htr : ∀ e ∈ tr, Smooth e) (hs : (s'.agents agent.nameAny).isSome) :
    OkIff agent tr (.ok a) s' :=
  ⟨⟨fun _ => htr, fun _ => ⟨a, rfl⟩⟩, hs⟩

theorem OkIff.error {α : Type} {x : KubeError} {tr : List (Event Cluster Call Answer)}
    {s' : Cluster} {e : Event Cluster Call Answer} (he : e ∈ tr) (hnot : ¬ Smooth e)
    (hs : (s'.agents agent.nameAny).isSome) :
    OkIff agent tr (.error x : Except KubeError α) s' :=
  ⟨⟨fun ⟨_, h⟩ => (by cases h), fun h => (hnot (h e he)).elim⟩, hs⟩

theorem smooth_of_call {e : Event Cluster Call Answer} (hd : ∀ n, e.call ≠ .delete .pod n)
    (hc : ∀ p : Pod, e.call ≠ .create .pod p) : Smooth e :=
  ⟨fun n h => (hd n h).elim, fun p h => (hc p h).elim⟩

theorem smooth_read {k : Kind} {n : String} {pre post : Cluster} {r : Answer (.getOpt k n)} :
    Smooth ⟨pre, .getOpt k n, r, post⟩ :=
  smooth_of_call (by simp) (by simp)

theorem ensure_okIff (ctx : Context) {k : Kind} (hk : k ≠ .pod) {s : Cluster}
    (hs : (s.agents agent.nameAny).isSome) :
    wp (Answers S.exec) (PodRemoval S) (fun tr r s' => OkIff agent tr r s')
      (ensureExists k (childName agent.nameAny k) (build ctx agent k)).run s := by
  rw [ensureExists_run]
  intro s1 h1 r s2 hs2
  obtain ⟨rfl, rfl⟩ := answers_getOpt.mp hs2
  have hs1 : (s2.agents agent.nameAny).isSome := by rw [(podRemoval_keeps h1).1]; exact hs
  cases ho : s2.objs k (childName agent.nameAny k) with
  | some o =>
    refine fun s3 h3 => OkIff.keep (.ok ?_ hs1) h3
    simp [smooth_read]
  | none =>
    intro s3 h3 r s4 hs4 s5 h5
    obtain ⟨hagents, hobjs⟩ := podRemoval_keeps h3
    have hs3 : (s3.agents agent.nameAny).isSome := by rw [hagents]; exact hs1
    rcases answers_create hs4 with ⟨-, rfl, hkeep⟩ | ⟨htaken, -, -⟩
    · have hcreate : Smooth ⟨s3, .create k (build ctx agent k), .ok (), s4⟩ :=
        smooth_of_call (by simp) fun p h => hk (by cases h; rfl)
      refine OkIff.keep (.ok ?_ (by rw [hkeep]; exact hs3)) h5
      simp [smooth_read, hcreate]
    · -- the name was free at the read, and the environment creates nothing
      rw [objName_build, hobjs k hk, ho] at htaken
      cases htaken

theorem createPod_okIff {s : Cluster} (hs : (s.agents agent.nameAny).isSome) :
    wp (Answers S.exec) (PodRemoval S) (fun tr r s' => OkIff agent tr r s')
      (.call (.create .pod (buildPod agent)) .ret) s := by
  intro s1 h1 r s2 hs2 s3 h3
  have hs1 : (s1.agents agent.nameAny).isSome := by rw [(podRemoval_keeps h1).1]; exact hs
  refine OkIff.keep ?_ h3
  rcases answers_create hs2 with ⟨hfree, rfl, hkeep⟩ | ⟨htaken, rfl, rfl⟩
  · refine .ok ?_ (by rw [hkeep]; exact hs1)
    intro e he
    obtain rfl := List.mem_singleton.mp he
    exact ⟨fun n h => (by cases h), fun p h => (by cases h; exact hfree)⟩
  · refine .error (List.mem_singleton.mpr rfl) (fun h => ?_) hs1
    have hfree := h.2 (buildPod agent) rfl
    rw [hfree] at htaken
    cases htaken

theorem deletePod_okIff {f : Except KubeError Unit → Prog Call Answer (Except KubeError Unit)}
    (herror : f (.error notFound) = .ret (.error notFound))
    (hok : ∀ s : Cluster, (s.agents agent.nameAny).isSome →
      wp (Answers S.exec) (PodRemoval S) (fun tr r s' => OkIff agent tr r s') (f (.ok ())) s)
    {s : Cluster} (hs : (s.agents agent.nameAny).isSome) :
    wp (Answers S.exec) (PodRemoval S) (fun tr r s' => OkIff agent tr r s')
      (.call (.delete .pod (podName agent.nameAny)) f) s := by
  intro s1 h1 r s2 hs2
  have hs1 : (s1.agents agent.nameAny).isSome := by rw [(podRemoval_keeps h1).1]; exact hs
  rcases answers_delete hs2 with ⟨hthere, rfl, hkeep⟩ | ⟨hgone, rfl, rfl⟩
  · have hdelete : Smooth ⟨s1, .delete .pod (podName agent.nameAny), .ok (), s2⟩ :=
      ⟨fun n h => (by cases h; exact hthere), fun p h => (by cases h)⟩
    refine wp_mono (hok s2 (by rw [hkeep]; exact hs1)) fun tr r s' h => ⟨h.1.trans ?_, h.2⟩
    simp [hdelete]
  · rw [herror]
    refine fun s3 h3 => OkIff.keep (.error (List.mem_singleton.mpr rfl) (fun h => ?_) hs1) h3
    have hthere := h.1 (podName agent.nameAny) rfl
    rw [hgone] at hthere
    cases hthere

theorem podStep_okIff {s : Cluster} (hs : (s.agents agent.nameAny).isSome) :
    wp (Answers S.exec) (PodRemoval S) (fun tr r s' => OkIff agent tr r s') (podStep agent) s := by
  -- a read in front changes nothing of the matter
  have hread : ∀ {s1 s2 : Cluster} {r : Answer (.getOpt .pod (podName agent.nameAny))}
      {p : Prog Call Answer (Except KubeError Unit)},
      wp (Answers S.exec) (PodRemoval S) (fun tr r s' => OkIff agent tr r s') p s2 →
      wp (Answers S.exec) (PodRemoval S) (fun tr r' s' =>
        OkIff agent (⟨s1, .getOpt .pod (podName agent.nameAny), r, s2⟩ :: tr) r' s') p s2 := by
    intro s1 s2 r p h
    refine wp_mono h fun tr r s' h => ⟨h.1.trans ?_, h.2⟩
    simp [smooth_read]
  have hdone : ∀ {s : Cluster}, (s.agents agent.nameAny).isSome →
      wp (Answers S.exec) (PodRemoval S) (fun tr r s' => OkIff agent tr r s')
        (.ret (.ok ()) : Prog Call Answer (Except KubeError Unit)) s :=
    fun hs s1 h1 => OkIff.keep (.ok (by simp) hs) h1
  rw [podStep]
  by_cases hstate : agent.spec.state = .stopped
  · rw [if_pos hstate, deletePodIfExists_run]
    intro s1 h1 r s2 hs2
    obtain ⟨rfl, rfl⟩ := answers_getOpt.mp hs2
    have hs1 : (s2.agents agent.nameAny).isSome := by rw [(podRemoval_keeps h1).1]; exact hs
    cases ho : s2.objs .pod (podName agent.nameAny) with
    | none => exact hread (hdone hs1)
    | some p => exact hread (deletePod_okIff rfl (fun s hs => hdone hs) hs1)
  · rw [if_neg hstate, reconcilePod_run]
    intro s1 h1 r s2 hs2
    obtain ⟨rfl, rfl⟩ := answers_getOpt.mp hs2
    have hs1 : (s2.agents agent.nameAny).isSome := by rw [(podRemoval_keeps h1).1]; exact hs
    cases ho : s2.objs .pod (podName agent.nameAny) with
    | none => exact hread (createPod_okIff hs1)
    | some p =>
      by_cases hneed : podNeedsUpdate p agent
      · simp only [hneed, if_true]
        refine hread (deletePod_okIff ?_ (fun s hs => ?_) hs1)
        · rfl
        intro s3 h3 u s4 hs4
        obtain rfl := answers_sleep.mp hs4
        have hs3 : (s4.agents agent.nameAny).isSome := by rw [(podRemoval_keeps h3).1]; exact hs
        refine wp_mono (createPod_okIff hs3) fun tr r s' h => ⟨h.1.trans ?_, h.2⟩
        have hsleep : Smooth ⟨s4, .sleep 2, u, s4⟩ := smooth_of_call (by simp) (by simp)
        simp [hsleep]
      · simp only [hneed, if_false, Bool.false_eq_true]
        exact hread (hdone hs1)

def Reported (agent : Agent) (tr : List (Event Cluster Call Answer)) : Prop :=
  ∃ e ∈ tr, ∃ patch, e.call = .patchAgentStatus agent.nameAny patch

theorem reportService_ok (status : AgentStatus) {s : Cluster}
    (hs : (s.agents agent.nameAny).isSome) :
    wp (Answers S.exec) (PodRemoval S) (fun tr r s' => OkIff agent tr r s' ∧ Reported agent tr)
      (.call (.getOpt .service (serviceName agent.nameAny)) fun svc =>
        .call (.patchAgentStatus agent.nameAny (statusPatch (withNodePorts status svc))) .ret :
        Prog Call Answer (Except KubeError Unit)) s := by
  intro s1 h1 svc s2 hs2 s3 h3 r s4 hs4 s5 h5
  obtain ⟨rfl, rfl⟩ := answers_getOpt.mp hs2
  have hs3 : (s3.agents agent.nameAny).isSome := by
    rw [(podRemoval_keeps h3).1, (podRemoval_keeps h1).1]
    exact hs
  rw [Answers, Server.exec_patchAgentStatus, if_pos hs3] at hs4
  obtain ⟨rfl, rfl⟩ := Prod.mk.inj hs4
  have hpatch : ∀ patch r, Smooth ⟨s3, .patchAgentStatus agent.nameAny patch, r,
      s3.setAgent agent.nameAny ((s3.agents agent.nameAny).map (·.patchStatus patch))⟩ :=
    fun _ _ => smooth_of_call (by simp) (by simp)
  refine ⟨OkIff.keep (.ok ?_ ?_) h5, _, List.mem_cons_of_mem _ (List.mem_singleton.mpr rfl), _, rfl⟩
  · simp [smooth_read, hpatch]
  · simpa using hs3

theorem updateStatus_ok {s : Cluster} (hs : (s.agents agent.nameAny).isSome) :
    wp (Answers S.exec) (PodRemoval S) (fun tr r s' => OkIff agent tr r s' ∧ Reported agent tr)
      (updateStatus agent).run s := by
  rw [updateStatus_run]
  by_cases hstate : agent.spec.state = .stopped
  · rw [if_pos hstate]
    exact reportService_ok _ hs
  · rw [if_neg hstate]
    intro s1 h1 r s2 hs2
    obtain ⟨rfl, rfl⟩ := answers_getOpt.mp hs2
    have hs1 : (s2.agents agent.nameAny).isSome := by rw [(podRemoval_keeps h1).1]; exact hs
    refine wp_mono (reportService_ok _ hs1) fun tr r s' h => ⟨⟨h.1.1.trans ?_, h.1.2⟩, ?_⟩
    · simp [smooth_read]
    · obtain ⟨e, he, hcall⟩ := h.2
      exact ⟨e, List.mem_cons_of_mem _ he, hcall⟩

/-- What a whole run comes to. -/
def Outcome (agent : Agent) (tr : List (Event Cluster Call Answer)) (r : Except KubeError Action)
    (s' : Cluster) : Prop :=
  OkIff agent tr r s' ∧ ((∃ a, r = .ok a) → Reported agent tr)

theorem outcome_andThen {p : Prog Call Answer (Except KubeError Unit)}
    {f : Unit → Prog Call Answer (Except KubeError Action)} {s : Cluster}
    (hp : wp (Answers S.exec) (PodRemoval S) (fun tr r s' => OkIff agent tr r s') p s)
    (hf : ∀ s', (s'.agents agent.nameAny).isSome →
      wp (Answers S.exec) (PodRemoval S) (fun tr r s' => Outcome agent tr r s') (f ()) s') :
    wp (Answers S.exec) (PodRemoval S) (fun tr r s' => Outcome agent tr r s') (andThen p f) s := by
  refine wp_andThen (wp_mono hp ?_)
  rintro tr (e | a) s' h
  · intro s1 h1
    refine ⟨⟨⟨fun ⟨_, hr⟩ => (by cases hr), fun hall => ?_⟩, (h.keep h1).2⟩,
      fun ⟨_, hr⟩ => (by cases hr)⟩
    obtain ⟨a, ha⟩ := h.1.mpr hall
    cases ha
  · have hgood := h.1.mp ⟨a, rfl⟩
    refine wp_mono (hf s' h.2) fun tr' r s'' h' => ⟨⟨h'.1.1.trans ?_, h'.1.2⟩, fun hr => ?_⟩
    · exact ⟨fun htr' e he => (List.mem_append.mp he).elim (hgood e) (htr' e),
        fun hall e he => hall e (List.mem_append_right _ he)⟩
    · obtain ⟨e, he, hcall⟩ := h'.2 hr
      exact ⟨e, List.mem_append_right _ he, hcall⟩

theorem reconcile_outcome (ctx : Context) {s : Cluster} (hs : (s.agents agent.nameAny).isSome) :
    wp (Answers S.exec) (PodRemoval S) (fun tr r s' => Outcome agent tr r s')
      (reconcile ctx agent).run s := by
  rw [reconcile_run]
  refine outcome_andThen (ensure_okIff ctx (k := .pvc) (by decide) hs) fun s1 hs1 => ?_
  refine outcome_andThen (podStep_okIff hs1) fun s2 hs2 => ?_
  refine outcome_andThen (ensure_okIff ctx (k := .netpol) (by decide) hs2) fun s3 hs3 => ?_
  refine outcome_andThen (ensure_okIff ctx (k := .service) (by decide) hs3) fun s4 hs4 => ?_
  refine wp_andThen (wp_mono (updateStatus_ok hs4) ?_)
  rintro tr (e | a) s5 ⟨h, hreported⟩
  · intro s6 h6
    have hbad : ¬ ∀ e ∈ tr, Smooth e := fun hall => by
      obtain ⟨a, ha⟩ := h.1.mpr hall
      cases ha
    exact ⟨⟨⟨fun ⟨_, hr⟩ => (by cases hr), fun hall => (hbad hall).elim⟩, (h.keep h6).2⟩,
      fun ⟨_, hr⟩ => (by cases hr)⟩
  · have hgood := h.1.mp ⟨a, rfl⟩
    intro s6 h6
    rw [List.append_nil]
    exact ⟨.ok hgood (h.keep h6).2, fun _ => hreported⟩

end Races

/-- A run of a stored Agent among pod removals, every call carried out: it returns Ok exactly when
every delete finds its pod and every create of a pod finds its name free, and then it has reported
the status. -/
theorem reconcile_ok_iff (S : Server) (ctx : Context) (agent : Agent) {s s' : Cluster}
    {tr : List (Event Cluster Call Answer)} {r : Except KubeError Action}
    (hs : (s.agents agent.nameAny).isSome)
    (h : Exec (Answers S.exec) (PodRemoval S) (reconcile ctx agent).run s tr r s') :
    ((∃ a, r = .ok a) ↔ ∀ e ∈ tr, Smooth e) ∧
      ((∃ a, r = .ok a) → ∃ e ∈ tr, ∃ patch, e.call = .patchAgentStatus agent.nameAny patch) := by
  obtain ⟨hiff, hreported⟩ := exec_wp h (reconcile_outcome ctx hs)
  exact ⟨hiff.1, hreported⟩

def Server.sampleGraceful : Server := Server.plain true "2026-01-01T00:00:00Z"

def sampleWithPod (state : AgentState) (p : Pod) : Cluster :=
  let agent := Agent.sample "a" "uid-1" state
  (agent.alone.set .pvc "agent-a-data" (some (buildPvc none agent))).set .pod "agent-a" (some p)

/-- A pod made from an earlier image. -/
def samplePod : Pod :=
  let agent := Agent.sample "a" "uid-1" .running
  buildPod { agent with spec := { agent.spec with image := "agent:v0" } }

def sampleTerminating : Pod :=
  { samplePod with
    metadata := { samplePod.metadata with deletionTimestamp := some "2026-01-01T00:00:00Z" } }

/-- The old pod is gone before the two seconds are over. -/
theorem reconcile_ok_iff_replaced :
    ∃ tr s', Exec (Answers Server.sampleGraceful.exec) (PodRemoval Server.sampleGraceful)
        (reconcile {} (Agent.sample "a" "uid-1" .running)).run (sampleWithPod .running samplePod) tr
        (.ok ⟨30⟩) s' ∧
      (∃ e ∈ tr, e.call = .delete .pod "agent-a") ∧
      (∃ e ∈ tr, e.call = .create .pod (buildPod (Agent.sample "a" "uid-1" .running))) ∧
      ∀ e ∈ tr, Smooth e := by
  let deleted := (sampleWithPod .running samplePod).set .pod "agent-a" (some sampleTerminating)
  have hgone : PodRemoval Server.sampleGraceful deleted (deleted.set .pod "agent-a" none) :=
    .finish rfl rfl
  have hrun : Exec (Answers Server.sampleGraceful.exec) (PodRemoval Server.sampleGraceful)
      (reconcile {} (Agent.sample "a" "uid-1" .running)).run (sampleWithPod .running samplePod) _
      _ _ :=
    .call rfl (.call rfl (.call rfl (.env hgone (.call rfl (run_exec _ _)))))
  refine ⟨_, _, hrun, ?_, ?_, (reconcile_ok_iff _ _ _ rfl hrun).1.mp ⟨_, rfl⟩⟩
  · exact ⟨_, .tail _ (.tail _ (.head _)), rfl⟩
  · exact ⟨_, .tail _ (.tail _ (.tail _ (.tail _ (.head _)))), rfl⟩

/-- A replaced pod still terminating when the new one is created, and a pod that vanishes between
the read and the delete: both end the run before the NetworkPolicy, the Service and the status. -/
theorem reconcile_trips :
    (∃ tr s', Exec (Answers Server.sampleGraceful.exec) (PodRemoval Server.sampleGraceful)
        (reconcile {} (Agent.sample "a" "uid-1" .running)).run (sampleWithPod .running samplePod) tr
        (.error alreadyExists) s' ∧ s'.objs .netpol "agent-a-isolation" = none) ∧
      ∃ tr s', Exec (Answers Server.sampleGraceful.exec) (PodRemoval Server.sampleGraceful)
        (reconcile {} (Agent.sample "a" "uid-1" .stopped)).run
        (sampleWithPod .stopped sampleTerminating) tr (.error notFound) s' ∧
        s'.objs .netpol "agent-a-isolation" = none := by
  constructor
  · exact ⟨_, _, run_exec _ _, rfl⟩
  · have hgone : PodRemoval Server.sampleGraceful (sampleWithPod .stopped sampleTerminating)
        ((sampleWithPod .stopped sampleTerminating).set .pod "agent-a" none) :=
      .finish rfl rfl
    exact ⟨_, _, .call rfl (.call rfl (.env hgone (.call rfl .ret))), rfl⟩

end Operator
end AgentHosting
