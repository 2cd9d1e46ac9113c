import AgentHosting.Lib.Pool
import AgentHosting.Operator.Settle

/-!
# AgentHosting.Operator.Spelling

Successive runs for a running Agent whose pod nobody else changes, under an API server that spells
quantities in canonical form. The drift check compares the limits of the stored pod with the spec as
strings, so it is the spelling of the spec that decides whether the pod is kept.

* `podNeedsUpdate_respell` — the check on a pod read back.
* `Steady`                 — a stretch of calls that deletes nothing and creates at most one pod.
* `reconcile_steady`       — what a run does when the pod it builds passes the check.
* `reconcile_replaces`     — what the second run does when it does not.
* `keeps_pod_iff`          — the pod is created once and kept, in all successions of runs, exactly
  when the spec spells its limits canonically.
-/

namespace AgentHosting
namespace Operator

open Kube Prog

/-! ## The pod read back -/

/-- The check on the pod as it comes back: each limit is respelled, and compared with the spec. -/
theorem podNeedsUpdate_respell (f : Kube.Quantity → Kube.Quantity) (agent : Agent) :
    podNeedsUpdate ((buildPod agent).respell f) agent = false ↔
      f agent.spec.cpu = agent.spec.cpu ∧ f agent.spec.memory = agent.spec.memory := by
  simp [podNeedsUpdate, buildPod, buildContainer, containerResources, limitMatches, Pod.respell,
    ResourceRequirements.respell, BTreeMap.insert, BTreeMap.get_mapValues, BTreeMap.get_cons]

def containersOf (s : Cluster) (name : String) : Option (Option (List Container)) :=
  (s.objs .pod (podName name)).map fun p => p.spec.map (·.containers)

theorem podNeedsUpdate_congr {p q : Pod} (agent : Agent)
    (h : p.spec.map (·.containers) = q.spec.map (·.containers)) :
    podNeedsUpdate p agent = podNeedsUpdate q agent := by
  obtain ⟨pm, _ | ps, pst⟩ := p <;> obtain ⟨qm, _ | qs, qst⟩ := q
  · rfl
  · cases h
  · cases h
  · simp only [podNeedsUpdate, Option.some.inj h]

/-- Nobody else writes the containers of the pod, or removes it. -/
def KeepsContainers (env : Cluster → Cluster → Prop) (name : String) : Prop :=
  ∀ s s', env s s' → containersOf s' name = containersOf s name

/-! ## Stretches of calls that keep the pod -/

section Steady

def UpToDate (agent : Agent) (s : Cluster) : Prop :=
  ∀ p, s.objs .pod (podName agent.nameAny) = some p → podNeedsUpdate p agent = false

def podCount (agent : Agent) (s : Cluster) : Nat :=
  if (s.objs .pod (podName agent.nameAny)).isSome then 1 else 0

def createsPod (agent : Agent) (e : Event Cluster Call Answer) : Bool :=
  (e.pre.objs .pod (podName agent.nameAny)).isNone &&
    (e.post.objs .pod (podName agent.nameAny)).isSome

structure Steady (agent : Agent) (s : Cluster) (tr : List (Event Cluster Call Answer))
    (s' : Cluster) : Prop where
  /-- The check is never made on a pod that fails it. -/
  reads : ∀ e ∈ tr, UpToDate agent e.pre
  undeleted : ∀ e ∈ tr, e.call ≠ .delete .pod (podName agent.nameAny)
  created : tr.countP (createsPod agent) + podCount agent s = podCount agent s'
  upToDate : UpToDate agent s'

variable {agent : Agent}

theorem Steady.nil {s : Cluster} (h : UpToDate agent s) : Steady agent s [] s := by
  refine ⟨?_, ?_, ?_, h⟩ <;> simp

theorem Steady.append {s s1 s' : Cluster} {tr tr' : List (Event Cluster Call Answer)}
    (h : Steady agent s tr s1) (h' : Steady agent s1 tr' s') : Steady agent s (tr ++ tr') s' := by
  refine ⟨fun e he => ?_, fun e he => ?_, ?_, h'.upToDate⟩
  · exact (List.mem_append.mp he).elim (h.reads e) (h'.reads e)
  · exact (List.mem_append.mp he).elim (h.undeleted e) (h'.undeleted e)
  · have hfirst := h.created
    have hsecond := h'.created
    rw [List.countP_append]
    omega

theorem Steady.single {e : Event Cluster Call Answer} (h : UpToDate agent e.pre)
    (hcall : e.call ≠ .delete .pod (podName agent.nameAny))
    (hpod : e.post.objs .pod = e.pre.objs .pod) : Steady agent e.pre [e] e.post := by
  have hcreated : createsPod agent e = false := by
    rw [createsPod, hpod]
    cases e.pre.objs .pod (podName agent.nameAny) <;> rfl
  refine ⟨by simpa using h, by simpa using hcall, ?_, ?_⟩
  · simp [hcreated, podCount, hpod]
  · rw [UpToDate, hpod]
    exact h

theorem podCount_env {env : Cluster → Cluster → Prop} (henv : KeepsContainers env agent.nameAny)
    {s s' : Cluster} (h : env s s') : podCount agent s' = podCount agent s := by
  have hsome : (s'.objs .pod (podName agent.nameAny)).isSome =
      (s.objs .pod (podName agent.nameAny)).isSome := by
    simpa [containersOf] using congrArg Option.isSome (henv s s' h)
  simp only [podCount, hsome]

theorem upToDate_env {env : Cluster → Cluster → Prop} (henv : KeepsContainers env agent.nameAny)
    {s s' : Cluster} (h : env s s') (hs : UpToDate agent s) : UpToDate agent s' := by
  intro p' hp'
  have hsame := henv s s' h
  rw [containersOf, containersOf, hp'] at hsame
  cases hp : s.objs .pod (podName agent.nameAny) with
  | none =>
    rw [hp] at hsame
    cases hsame
  | some p =>
    rw [hp] at hsame
    rw [podNeedsUpdate_congr agent (Option.some.inj hsame)]
    exact hs p hp

theorem Steady.env {env : Cluster → Cluster → Prop} (henv : KeepsContainers env agent.nameAny)
    {s s' : Cluster} (hs : UpToDate agent s) (h : env s s') : Steady agent s [] s' := by
  refine ⟨by simp, by simp, ?_, upToDate_env henv h hs⟩
  rw [podCount_env henv h]
  simp

theorem Steady.envs {env : Cluster → Cluster → Prop} (henv : KeepsContainers env agent.nameAny)
    {s s' : Cluster} (hs : UpToDate agent s) (h : Relation.ReflTransGen env s s') :
    Steady agent s [] s' := by
  induction h with
  | refl => exact .nil hs
  | tail _ h ih => exact ih.append (.env henv ih.upToDate h)

theorem Steady.create {S : Server}
    (hstored : podNeedsUpdate (S.stored (k := .pod) (buildPod agent)) agent = false) {s : Cluster}
    (hs : UpToDate agent s) (hnone : s.objs .pod (podName agent.nameAny) = none)
    (r : Answer (.create .pod (buildPod agent))) :
    let s' := s.set .pod (podName agent.nameAny) (some (S.stored (k := .pod) (buildPod agent)))
    Steady agent s [⟨s, .create .pod (buildPod agent), r, s'⟩] s' ∧ podCount agent s' = 1 := by
  intro s'
  have hpod : s'.objs .pod (podName agent.nameAny) =
      some (S.stored (k := .pod) (buildPod agent)) := Cluster.set_same ..
  have hafter : podCount agent s' = 1 := by simp [podCount, hpod]
  refine ⟨⟨by simpa using hs, by simp, ?_, ?_⟩, hafter⟩
  · simp [createsPod, hnone, hpod, podCount]
  · intro p hp
    rw [← Option.some.inj (hpod.symm.trans hp)]
    exact hstored

end Steady

/-! ## What a run does -/

section Wp

variable {S : Server} {env : Cluster → Cluster → Prop} {agent : Agent}

def LeavesPods (c : Call) : Prop := (∀ n, c ≠ .delete .pod n) ∧ ∀ p : Pod, c ≠ .create .pod p

theorem ensureExists_leavesPods {k : Kind} (hk : k ≠ .pod) (name : String) (desired : Obj k) :
    (ensureExists k name desired).run.AllCalls LeavesPods :=
  ensureExists_calls ⟨by simp, by simp⟩ ⟨by simp, fun p h => hk (by cases h; rfl)⟩

theorem updateStatus_leavesPods (agent : Agent) : (updateStatus agent).run.AllCalls LeavesPods :=
  updateStatus_calls ⟨by simp, by simp⟩ ⟨by simp, by simp⟩ fun _ => ⟨by simp, by simp⟩

/-- The steps of a run after that of the pod. -/
def afterPod (agent : Agent) : Prog Call Answer (Except KubeError Action) :=
  andThen (reconcileNetworkPolicy agent).run fun _ =>
  andThen (reconcileService agent).run fun _ =>
  andThen (updateStatus agent).run fun _ => .ret (.ok ⟨30⟩)

theorem afterPod_leavesPods (agent : Agent) : (afterPod agent).AllCalls LeavesPods := by
  refine (ensureExists_leavesPods (k := .netpol) (by decide) _ _).andThen fun _ => ?_
  refine (ensureExists_leavesPods (k := .service) (by decide) _ _).andThen fun _ => ?_
  exact (updateStatus_leavesPods agent).andThen fun _ => trivial

theorem steady_of_leavesPods {α : Type} (henv : KeepsContainers env agent.nameAny)
    {p : Prog Call Answer α} (h : p.AllCalls LeavesPods) {s : Cluster} (hs : UpToDate agent s) :
    wp S.Faulty env (fun tr _ s' => Steady agent s tr s') p s := by
  refine wp_mono (wp_collect (P := fun s tr s' => UpToDate agent s → Steady agent s tr s')
    ?_ ?_ ?_ h s) fun _ _ _ h => h hs
  · exact fun s hs => .nil hs
  · intro s s1 tr s' he hrest hs
    exact (Steady.env henv hs he).append (hrest (upToDate_env henv he hs))
  · intro s c r s1 tr s' hc hserve hrest hs
    have hone : Steady agent s [⟨s, c, r, s1⟩] s1 :=
      .single (e := ⟨s, c, r, s1⟩) hs (hc.1 _) (hserve.pods_of_call hc)
    exact hone.append (hrest hone.upToDate)

/-- What a run, or a part of it that ends with the pod in place, comes to. -/
def PodKept (agent : Agent) {α : Type} (s : Cluster) (tr : List (Event Cluster Call Answer))
    (r : Except KubeError α) (s' : Cluster) : Prop :=
  Steady agent s tr s' ∧ ∀ a, r = .ok a → podCount agent s' = 1

theorem PodKept.keep {α : Type} (henv : KeepsContainers env agent.nameAny) {s s1 s' : Cluster}
    {tr : List (Event Cluster Call Answer)} {r : Except KubeError α}
    (h : PodKept agent s tr r s1) (hs : Relation.ReflTransGen env s1 s') :
    PodKept agent s tr r s' := by
  have hrest : Steady agent s1 [] s' := .envs henv h.1.upToDate hs
  refine ⟨by simpa using h.1.append hrest, fun a ha => ?_⟩
  have hcount := hrest.created
  rw [h.2 a ha] at hcount
  simpa using hcount.symm

theorem PodKept.error {α : Type} {s s' : Cluster} {tr : List (Event Cluster Call Answer)}
    (h : Steady agent s tr s') (e : KubeError) :
    PodKept agent s tr (.error e : Except KubeError α) s' :=
  ⟨h, fun a ha => by cases ha⟩

theorem PodKept.after {α : Type} {s s1 s' : Cluster} {tr tr' : List (Event Cluster Call Answer)}
    {r : Except KubeError α} (h : Steady agent s tr s1) (h' : PodKept agent s1 tr' r s') :
    PodKept agent s (tr ++ tr') r s' :=
  ⟨h.append h'.1, h'.2⟩

theorem podStep_kept (henv : KeepsContainers env agent.nameAny)
    (hstored : podNeedsUpdate (S.stored (k := .pod) (buildPod agent)) agent = false)
    (hstate : agent.spec.state = .running) {s : Cluster} (hs : UpToDate agent s) :
    wp S.Faulty env (fun tr r s' => PodKept agent s tr r s') (podStep agent) s := by
  rw [podStep, if_neg (by rw [hstate]; decide), reconcilePod_run]
  intro s1 h1 r s2 hs2
  have hread : Steady agent s [⟨s1, .getOpt .pod (podName agent.nameAny), r, s2⟩] s2 := by
    have hbefore := Steady.envs henv hs h1
    exact hbefore.append (.single (e := ⟨s1, .getOpt .pod (podName agent.nameAny), r, s2⟩)
      hbefore.upToDate (by simp) (by rw [hs2.getOpt.1]))
  obtain ⟨rfl, hr⟩ := hs2.getOpt
  rcases hr with rfl | ⟨e, rfl⟩
  · cases ho : s2.objs .pod (podName agent.nameAny) with
    | none =>
      rw [ho] at hread
      intro s3 h3 r s4 hs4 s5 h5
      have hbefore := Steady.envs henv hread.upToDate h3
      refine PodKept.keep henv (PodKept.after hread ?_) h5
      rcases hs4.create with ⟨rfl, e, rfl⟩ | ⟨hnone, rfl⟩
      · exact .error (hbefore.append (.single (e := ⟨s4, .create .pod (buildPod agent), _, s4⟩)
          hbefore.upToDate (by simp) rfl)) e
      · obtain ⟨hcreate, hcount⟩ := Steady.create hstored hbefore.upToDate hnone r
        exact ⟨hbefore.append hcreate, fun _ _ => hcount⟩
    | some p =>
      have hok := hread.upToDate p ho
      rw [ho] at hread
      simp only [hok, if_false, Bool.false_eq_true]
      refine fun s3 h3 => PodKept.keep henv ⟨hread, fun _ _ => ?_⟩ h3
      simp [podCount, ho]
  · exact fun s3 h3 => PodKept.keep henv (.error hread e) h3

theorem reconcile_steady (ctx : Context) (henv : KeepsContainers env agent.nameAny)
    (hstored : podNeedsUpdate (S.stored (k := .pod) (buildPod agent)) agent = false)
    (hstate : agent.spec.state = .running) {s : Cluster} (hs : UpToDate agent s) :
    wp S.Faulty env (fun tr r s' => PodKept agent s tr r s') (reconcile ctx agent).run s := by
  rw [reconcile_run]
  refine wp_andThen (wp_mono (steady_of_leavesPods henv
    (ensureExists_leavesPods (k := .pvc) (by decide) _ _) hs) ?_)
  rintro tr (e | ⟨⟩) s1 hpvc
  · exact fun s2 h2 => PodKept.keep henv (.error hpvc e) h2
  refine wp_andThen (wp_mono (podStep_kept henv hstored hstate hpvc.upToDate) ?_)
  rintro tr' (e | ⟨⟩) s2 hpod
  · exact fun s3 h3 => PodKept.keep henv (.error (hpvc.append hpod.1) e) h3
  refine wp_mono (steady_of_leavesPods henv (afterPod_leavesPods agent) hpod.1.upToDate) ?_
  intro tr'' r s3 hrest
  rw [← List.append_assoc]
  refine PodKept.after (hpvc.append hpod.1) ⟨hrest, fun a _ => ?_⟩
  have hcount := hrest.created
  have hle : podCount agent s3 ≤ 1 := by
    unfold podCount
    split <;> omega
  rw [hpod.2 () rfl] at hcount
  omega

end Wp

/-! ## Successive runs -/

structure Round where
  calls : List (Event Cluster Call Answer)
  result : Except KubeError Action

/-- A run for the Agent, with whatever status its copy carries; any call may fail, with or without
its effect. -/
def RoundStep (S : Server) (env : Cluster → Cluster → Prop) (ctx : Context) (agent : Agent)
    (s : Cluster) (l : Round) (s' : Cluster) : Prop :=
  ∃ status, Exec S.Faulty env (reconcile ctx { agent with status := status }).run s l.calls
    l.result s'

def callsOf (rounds : List (Cluster × Round)) : List (Event Cluster Call Answer) :=
  rounds.flatMap (·.2.calls)

/-- The pod is created once, as soon as a run has returned Ok, and is kept: it is never deleted, and
passes the check whenever it is read back. -/
structure KeepsPod (agent : Agent) (rounds : List (Cluster × Round)) : Prop where
  undeleted : ∀ e ∈ callsOf rounds, e.call ≠ .delete .pod (podName agent.nameAny)
  createdAtMostOnce : (callsOf rounds).countP (createsPod agent) ≤ 1
  createdOnce : (∃ e ∈ rounds, ∃ a, e.2.result = .ok a) →
    (callsOf rounds).countP (createsPod agent) = 1
  readBack : ∀ e ∈ callsOf rounds, e.call = .getOpt .pod (podName agent.nameAny) →
    ∀ p, e.pre.objs .pod (podName agent.nameAny) = some p → podNeedsUpdate p agent = false

section Rounds

variable {S : Server} {env : Cluster → Cluster → Prop} {ctx : Context} {agent : Agent}

theorem rounds_kept (henv : KeepsContainers env agent.nameAny)
    (hstored : podNeedsUpdate (S.stored (k := .pod) (buildPod agent)) agent = false)
    (hstate : agent.spec.state = .running) {s s' : Cluster} {rounds : List (Cluster × Round)}
    (h : Run (RoundStep S env ctx agent) s rounds s') (hs : UpToDate agent s) :
    Steady agent s (callsOf rounds) s' ∧
      ((∃ e ∈ rounds, ∃ a, e.2.result = .ok a) → podCount agent s' = 1) := by
  induction h with
  | nil => exact ⟨.nil hs, by simp⟩
  | @snoc s1 s2 rounds l _ hl ih =>
    obtain ⟨hbefore, hcount⟩ := ih
    obtain ⟨status, hexec⟩ := hl
    rw [reconcile_status] at hexec
    obtain ⟨hround, hok⟩ := exec_wp hexec
      (reconcile_steady ctx henv hstored hstate hbefore.upToDate)
    have hall : Steady agent s (callsOf (rounds ++ [(s1, l)])) s2 := by
      simpa [callsOf] using hbefore.append hround
    refine ⟨hall, fun ⟨e, he, a, ha⟩ => ?_⟩
    rcases List.mem_append.mp he with he | he
    · -- once there the pod stays
      have hthere := hcount ⟨e, he, a, ha⟩
      have hstays := hround.created
      have hle : podCount agent s2 ≤ 1 := by
        unfold podCount
        split <;> omega
      omega
    · obtain rfl := List.mem_singleton.mp he
      exact hok a ha

theorem keepsPod_of_stored (henv : KeepsContainers env agent.nameAny)
    (hstored : podNeedsUpdate (S.stored (k := .pod) (buildPod agent)) agent = false)
    (hstate : agent.spec.state = .running) {s s' : Cluster} {rounds : List (Cluster × Round)}
    (h : Run (RoundStep S env ctx agent) s rounds s')
    (hs : s.objs .pod (podName agent.nameAny) = none) : KeepsPod agent rounds := by
  have hfresh : UpToDate agent s := fun p hp => by rw [hs] at hp; cases hp
  obtain ⟨hall, hcount⟩ := rounds_kept henv hstored hstate h hfresh
  have hcreated := hall.created
  have hnone : podCount agent s = 0 := by simp [podCount, hs]
  have hle : podCount agent s' ≤ 1 := by
    unfold podCount
    split <;> omega
  refine ⟨hall.undeleted, by omega, fun hok => ?_, fun e he _ => hall.reads e he⟩
  have hone := hcount hok
  omega

theorem reconcile_creates (ctx : Context) (hstate : agent.spec.state = .running) {s : Cluster}
    (hs : s.objs .pod (podName agent.nameAny) = none) :
    (run S.exec (reconcile ctx agent).run s).2.objs .pod (podName agent.nameAny) =
      some (S.stored (k := .pod) (buildPod agent)) := by
  obtain ⟨s1, hr1, hpod1⟩ : ∃ s1, run S.exec (reconcilePvc ctx agent).run s = (.ok (), s1) ∧
      s1.objs .pod (podName agent.nameAny) = none :=
    ⟨_, run_ensureExists ctx agent S .pvc s, by rw [Cluster.set_other_kind _ (by decide), hs]⟩
  obtain ⟨s2, hr2, hpod2⟩ : ∃ s2, run S.exec (podStep agent) s1 = (.ok (), s2) ∧
      s2.objs .pod (podName agent.nameAny) = some (S.stored (k := .pod) (buildPod agent)) := by
    have hname : objName (k := .pod) (buildPod agent) = podName agent.nameAny := rfl
    refine ⟨s1.set .pod (podName agent.nameAny) (some (S.stored (k := .pod) (buildPod agent))),
      ?_, Cluster.set_same ..⟩
    rw [podStep, if_neg (by rw [hstate]; decide), reconcilePod_run]
    simp only [run_call, Server.exec, hpod1, hname, run_ret]
  rw [reconcile_run, run_andThen_ok hr1, run_andThen_ok hr2]
  -- the rest of the run leaves the pod alone
  have hrest : Exec (Answers S.exec) Alone (afterPod agent) s2 (trace S.exec (afterPod agent) s2)
      (run S.exec (afterPod agent) s2).1 (run S.exec (afterPod agent) s2).2 := run_exec ..
  refine exec_invariant (I := fun s => s.objs .pod (podName agent.nameAny) =
    some (S.stored (k := .pod) (buildPod agent))) (fun _ _ _ h => h.elim) ?_ hrest
    (afterPod_leavesPods agent) hpod2
  intro s c r s' hi hc hserve
  obtain ⟨rfl, rfl⟩ := Prod.mk.inj hserve
  have hkeep : (S.exec s c).2.objs .pod = s.objs .pod := Server.Faulty.served.pods_of_call hc
  exact (congrFun hkeep _).trans hi

theorem reconcile_deletes (ctx : Context) (hstate : agent.spec.state = .running) {s : Cluster}
    {p : Pod} (hs : s.objs .pod (podName agent.nameAny) = some p)
    (hneed : podNeedsUpdate p agent = true) :
    ∃ e ∈ trace S.exec (reconcile ctx agent).run s,
      e.call = .delete .pod (podName agent.nameAny) := by
  obtain ⟨s1, hr1, hpod1⟩ : ∃ s1, run S.exec (reconcilePvc ctx agent).run s = (.ok (), s1) ∧
      s1.objs .pod (podName agent.nameAny) = some p :=
    ⟨_, run_ensureExists ctx agent S .pvc s, by rw [Cluster.set_other_kind _ (by decide), hs]⟩
  have hdelete : ∃ e ∈ trace S.exec (podStep agent) s1,
      e.call = .delete .pod (podName agent.nameAny) := by
    rw [podStep, if_neg (by rw [hstate]; decide), reconcilePod_run]
    simp only [trace, Server.exec_getOpt, hpod1, hneed, if_true]
    exact ⟨_, List.mem_cons_of_mem _ List.mem_cons_self, rfl⟩
  obtain ⟨e, he, hcall⟩ := hdelete
  refine ⟨e, ?_, hcall⟩
  rw [reconcile_run, trace_andThen, hr1]
  refine List.mem_append_right _ ?_
  show e ∈ trace S.exec (andThen (podStep agent) _) s1
  rw [trace_andThen]
  exact List.mem_append_left _ he

theorem round_of_run (s : Cluster) :
    RoundStep S env ctx agent s
      ⟨trace S.exec (reconcile ctx agent).run s, (run S.exec (reconcile ctx agent).run s).1⟩
      (run S.exec (reconcile ctx agent).run s).2 :=
  ⟨agent.status, Server.exec_of_run ..⟩

/-- When the pod fails the check after it was stored, the second of two runs that nothing disturbs
deletes what the first created. -/
theorem reconcile_replaces (env : Cluster → Cluster → Prop) (ctx : Context)
    (hstored : podNeedsUpdate (S.stored (k := .pod) (buildPod agent)) agent = true)
    (hstate : agent.spec.state = .running) {s : Cluster}
    (hs : s.objs .pod (podName agent.nameAny) = none) :
    ∃ rounds s', Run (RoundStep S env ctx agent) s rounds s' ∧ rounds.length = 2 ∧
      ∃ e ∈ callsOf rounds, e.call = .delete .pod (podName agent.nameAny) := by
  obtain ⟨e, he, hcall⟩ :=
    reconcile_deletes (S := S) ctx hstate (reconcile_creates ctx hstate hs) hstored
  refine ⟨_, _, .snoc (.snoc .nil (round_of_run s)) (round_of_run _), rfl, e, ?_, hcall⟩
  simp only [callsOf, List.nil_append, List.flatMap_append, List.flatMap_singleton]
  exact List.mem_append_right _ he

end Rounds

/-- Nobody else writing the pod: in all successions of runs for a running Agent without a pod, the
pod is created once and kept exactly when the spec spells its limits in canonical form. -/
theorem keeps_pod_iff (Q : AgentHosting.Quantity.Canonical) (graceful : Bool) (deletedAt : String)
    (ctx : Context) (agent : Agent) {env : Cluster → Cluster → Prop}
    (henv : KeepsContainers env agent.nameAny) (hstate : agent.spec.state = .running) {s : Cluster}
    (hs : s.objs .pod (podName agent.nameAny) = none) :
    (∀ rounds s',
      Run (RoundStep (Server.canonical Q graceful deletedAt) env ctx agent) s rounds s' →
        KeepsPod agent rounds) ↔
      Q.spell agent.spec.cpu = agent.spec.cpu ∧ Q.spell agent.spec.memory = agent.spec.memory := by
  rw [← podNeedsUpdate_respell]
  constructor
  · intro hkeeps
    by_contra hneed
    obtain ⟨rounds, s', hrun, -, e, he, hdelete⟩ :=
      reconcile_replaces (S := Server.canonical Q graceful deletedAt) env ctx
        (eq_true_of_ne_false hneed) hstate hs
    exact (hkeeps rounds s' hrun).undeleted e he hdelete
  · intro hok rounds s' hrun
    exact keepsPod_of_stored henv hok hstate hrun hs

/-- Canonical spellings of the quantities below. -/
def sampleCanonical : AgentHosting.Quantity.Canonical where
  spell := fun s => if s = "0.5" then "500m" else if s = "1024Mi" then "1Gi" else s
  value_spell := by
    intro s _
    split
    · subst s
      decide +kernel
    · split
      · subst s
        decide +kernel
      · rfl

theorem keeps_pod_iff_default :
    let agent := Agent.sample "a" "uid-1" .running
    ∃ rounds s', Run (RoundStep (Server.canonical sampleCanonical true "2026-01-01T00:00:00Z") Alone
        {} agent) agent.alone rounds s' ∧ rounds.length = 2 ∧ KeepsPod agent rounds := by
  intro agent
  have halone : KeepsContainers Alone agent.nameAny := fun _ _ h => h.elim
  have hkeeps := (keeps_pod_iff sampleCanonical true "2026-01-01T00:00:00Z" {} agent halone rfl
    (s := agent.alone) rfl).mpr ⟨by decide, by decide⟩
  exact ⟨_, _, .snoc (.snoc .nil (round_of_run _)) (round_of_run _), rfl,
    hkeeps _ _ (.snoc (.snoc .nil (round_of_run _)) (round_of_run _))⟩

/-- An Agent that asks for half a CPU. -/
def Agent.sampleHalf : Agent :=
  let agent := Agent.sample "a" "uid-1" .running
  { agent with spec := { agent.spec with cpu := "0.5" } }

/-- Its second run deletes the pod the first has created. -/
theorem respelled_deletes :
    ¬ ∀ rounds s', Run
      (RoundStep (Server.canonical sampleCanonical true "2026-01-01T00:00:00Z") Alone {}
        Agent.sampleHalf) Agent.sampleHalf.alone rounds s' →
      KeepsPod Agent.sampleHalf rounds := by
  intro hkeeps
  have hneed : podNeedsUpdate ((buildPod Agent.sampleHalf).respell sampleCanonical.spell)
      Agent.sampleHalf = true := by
    by_contra hok
    obtain ⟨hcpu, -⟩ := (podNeedsUpdate_respell _ _).mp (Bool.eq_false_iff.mpr hok)
    exact absurd hcpu (by decide)
  obtain ⟨rounds, s', hrun, -, e, he, hdelete⟩ :=
    reconcile_replaces (S := Server.canonical sampleCanonical true "2026-01-01T00:00:00Z") Alone {}
      hneed rfl (s := Agent.sampleHalf.alone) rfl
  exact (hkeeps rounds s' hrun).undeleted e he hdelete

end Operator
end AgentHosting
