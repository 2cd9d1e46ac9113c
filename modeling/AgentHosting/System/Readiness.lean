import AgentHosting.Lib.Deadline
import AgentHosting.Lib.Rely
import AgentHosting.Operator.Healing
import AgentHosting.System.Completion
import AgentHosting.System.StatusPipeline

/-!
# AgentHosting.System.Readiness

How long a stream that waits for `running` has to wait, once the pod runs: the next run of the
controller reports it, and the next poll after that run finds it.

* `Up`            — everything is in place, the Agent can be read, and its pod runs.
* `Told`          — besides, the stored status says so.
* `Uptime`        — the runs of the controller for an Agent whose pod stays up.
* `told_in_time`  — after two runs and one pause every state that can be seen is `Told`.
* `stream_ready`  — a stream that polls often enough then reports success, and no error.
* `ready_in_time` — the two together.
-/

namespace AgentHosting
namespace System

open Kube Prog Operator

/-! ## The state the nodes are to keep -/

/-- The status of the stored Agent can be read; its spec is the one the controller has. -/
structure ReadsBack (agent : Operator.Agent) (o : AgentObject) (status : Option AgentStatus) :
    Prop where
  spec : AgentSpec.fromJson o.spec = some agent.spec
  status : AgentStatus.fromStored o.status = some status

structure Up (agent : Operator.Agent) (s : Cluster) : Prop where
  healthy : Healthy agent s
  stored : ∃ o status, s.agents agent.nameAny = some o ∧ ReadsBack agent o status
  runs : ∀ p, s.objs .pod (podName agent.nameAny) = some p →
    podPhase p = some "Running" ∧ ¬ CrashLooping p

structure Told (agent : Operator.Agent) (s : Cluster) : Prop where
  up : Up agent s
  status : ∃ o status, s.agents agent.nameAny = some o ∧ ReadsBack agent o (some status) ∧
    status.phase = some "Running"

/-- What the others do, the nodes among them: nothing to the stored Agent, and its pod stays up. -/
def LeavesUp (agent : Operator.Agent) (s s' : Cluster) : Prop :=
  s'.agents agent.nameAny = s.agents agent.nameAny ∧ (Up agent s → Up agent s')

/-- The calls of a run that finds the pod up: reads, and a report that it runs. -/
inductive SteadyCall (agent : Operator.Agent) : Call → Prop where
  | read (k : Kind) (n : String) : SteadyCall agent (.getOpt k n)
  | report {status : AgentStatus} : status.phase = some "Running" →
      SteadyCall agent (.patchAgentStatus agent.nameAny (statusPatch status))

section Steadily

variable {S : Server} {agent : Operator.Agent} {s s' : Cluster}

theorem Up.star (h : Up agent s) (hs : Relation.ReflTransGen (LeavesUp agent) s s') :
    Up agent s' := by
  induction hs with
  | refl => exact h
  | tail _ hs ih => exact hs.2 ih

theorem Told.others (h : Told agent s) (hs : LeavesUp agent s s') : Told agent s' := by
  refine ⟨hs.2 h.up, ?_⟩
  rw [hs.1]
  exact h.status

theorem Told.star (h : Told agent s) (hs : Relation.ReflTransGen (LeavesUp agent) s s') :
    Told agent s' := by
  induction hs with
  | refl => exact h
  | tail _ hs ih => exact ih.others hs

/-- A report that the pod runs is stored. -/
theorem told_of_report (h : Up agent s) {status : AgentStatus}
    (hstatus : status.phase = some "Running")
    {r : Answer (.patchAgentStatus agent.nameAny (statusPatch status))}
    (hs : Answers S.exec s (.patchAgentStatus agent.nameAny (statusPatch status)) r s') :
    r = .ok () ∧ Told agent s' := by
  obtain ⟨o, old, ho, hreads⟩ := h.stored
  rw [Answers, Server.exec_patchAgentStatus, ho] at hs
  obtain ⟨rfl, rfl⟩ := Prod.mk.inj hs
  have hstored : ReadsBack agent (o.patchStatus (statusPatch status))
      (some (status.over (old.getD {}))) :=
    ⟨hreads.spec, fromStored_patchStatus hreads.status status⟩
  have hagent : (s.setAgent agent.nameAny
      ((some o).map (·.patchStatus (statusPatch status)))).agents agent.nameAny =
        some (o.patchStatus (statusPatch status)) := Cluster.setAgent_same ..
  have hhealthy := h.healthy.report (·.patchStatus (statusPatch status))
  rw [ho] at hhealthy
  exact ⟨rfl, ⟨hhealthy, ⟨_, _, hagent, hstored⟩, h.runs⟩, ⟨_, _, hagent, hstored, hstatus⟩⟩

theorem told_call {c : Call} {r : Answer c} (h : Told agent s) (hc : SteadyCall agent c)
    (hs : Answers S.exec s c r s') : Told agent s' := by
  cases hc with
  | read k n =>
    obtain ⟨-, rfl⟩ := answers_getOpt.mp hs
    exact h
  | report hstatus => exact (told_of_report h.up hstatus hs).2

/-! ## A run that finds the pod up -/

/-- Its calls are steady, and it goes on with the Agent up. -/
abbrev Steadily (S : Server) (agent : Operator.Agent) {α : Type} (p : Prog Call Answer α)
    (s : Cluster) : Prop :=
  Safe (Answers S.exec) (LeavesUp agent) (fun _ => SteadyCall agent) p s

theorem ensure_steady (ctx : Context) {k : Kind} (hk : k ∈ [Kind.service, .netpol, .pvc])
    (h : Up agent s) :
    Steadily S agent (ensureExists k (childName agent.nameAny k) (build ctx agent k)).run s ∧
      wp (Answers S.exec) (LeavesUp agent) (fun _ r s' => r = .ok () ∧ Up agent s')
        (ensureExists k (childName agent.nameAny k) (build ctx agent k)).run s := by
  have hpod : k ≠ .pod := by
    rintro rfl
    exact absurd hk (by decide)
  have hread : ∀ s1, Relation.ReflTransGen (LeavesUp agent) s s1 → ∀ r s2,
      Answers S.exec s1 (.getOpt k (childName agent.nameAny k)) r s2 →
        Up agent s2 ∧ ∃ o, r = .ok (some o) := by
    intro s1 h1 r s2 hs
    obtain ⟨rfl, rfl⟩ := answers_getOpt.mp hs
    have hup := h.star h1
    obtain ⟨o, ho⟩ := Option.isSome_iff_exists.mp (hup.healthy.children k hk hpod)
    exact ⟨hup, o, by rw [ho]⟩
  rw [ensureExists_run]
  constructor
  · intro s1 h1
    refine ⟨.read k _, fun r s2 hs => ?_⟩
    obtain ⟨-, o, rfl⟩ := hread s1 h1 r s2 hs
    trivial
  · intro s1 h1 r s2 hs
    obtain ⟨hup, o, rfl⟩ := hread s1 h1 r s2 hs
    exact fun s3 h3 => ⟨rfl, hup.star h3⟩

/-- The pod of a running Agent that is up. -/
theorem Up.pod (h : Up agent s) (hstate : agent.spec.state ≠ .stopped) :
    ∃ p, s.objs .pod (podName agent.nameAny) = some p ∧ podNeedsUpdate p agent = false ∧
      (deriveStatusFromPod p).phase = some "Running" := by
  have hright := h.healthy.pod
  rw [Right, if_neg hstate] at hright
  obtain ⟨p, hp, -, hok⟩ := hright
  obtain ⟨hphase, hcrash⟩ := h.runs p hp
  refine ⟨p, hp, hok, ?_⟩
  rw [deriveStatusFromPod_phase, if_neg fun hflag => hcrash ((crashFlag_iff p).mp hflag), hphase]
  rfl

theorem podStep_steady (hstate : agent.spec.state ≠ .stopped) (h : Up agent s) :
    Steadily S agent (podStep agent) s ∧
      wp (Answers S.exec) (LeavesUp agent) (fun _ r s' => r = .ok () ∧ Up agent s')
        (podStep agent) s := by
  have hread : ∀ s1, Relation.ReflTransGen (LeavesUp agent) s s1 → ∀ r s2,
      Answers S.exec s1 (.getOpt .pod (podName agent.nameAny)) r s2 →
        Up agent s2 ∧ ∃ p, r = .ok (some p) ∧ podNeedsUpdate p agent = false := by
    intro s1 h1 r s2 hs
    obtain ⟨rfl, rfl⟩ := answers_getOpt.mp hs
    have hup := h.star h1
    obtain ⟨p, hp, hok, -⟩ := hup.pod hstate
    exact ⟨hup, p, by rw [hp], hok⟩
  rw [podStep, if_neg hstate, reconcilePod_run]
  constructor
  · intro s1 h1
    refine ⟨.read .pod _, fun r s2 hs => ?_⟩
    obtain ⟨-, p, rfl, hok⟩ := hread s1 h1 r s2 hs
    simp only [hok, if_false, Bool.false_eq_true]
    trivial
  · intro s1 h1 r s2 hs
    obtain ⟨hup, p, rfl, hok⟩ := hread s1 h1 r s2 hs
    simp only [hok, if_false, Bool.false_eq_true]
    exact fun s3 h3 => ⟨rfl, hup.star h3⟩

theorem updateStatus_steady (hstate : agent.spec.state ≠ .stopped) (h : Up agent s) :
    Steadily S agent (updateStatus agent).run s ∧
      wp (Answers S.exec) (LeavesUp agent) (fun _ r s' => r = .ok () ∧ Told agent s')
        (updateStatus agent).run s := by
  have hreport : ∀ {p : Pod} (svc : Answer (.getOpt .service (serviceName agent.nameAny))),
      (deriveStatusFromPod p).phase = some "Running" → ∃ status,
        withNodePorts (podStatus (some p)) svc = status ∧ status.phase = some "Running" := by
    intro p svc hphase
    obtain ⟨ports, hports⟩ := withNodePorts_eq (podStatus (some p)) svc
    exact ⟨_, hports, hphase⟩
  rw [updateStatus_run, if_neg hstate]
  constructor
  · intro s1 h1
    refine ⟨.read .pod _, fun r s2 hs => ?_⟩
    obtain ⟨rfl, rfl⟩ := answers_getOpt.mp hs
    obtain ⟨p, hp, -, hphase⟩ := (h.star h1).pod hstate
    rw [hp]
    intro s3 h3
    refine ⟨.read .service _, fun svc s4 hs4 s5 h5 => ⟨?_, fun r s6 _ => trivial⟩⟩
    obtain ⟨status, hstatus, hrunning⟩ := hreport svc hphase
    rw [hstatus]
    exact .report hrunning
  · intro s1 h1 r s2 hs
    obtain ⟨rfl, rfl⟩ := answers_getOpt.mp hs
    have hup := h.star h1
    obtain ⟨p, hp, -, hphase⟩ := hup.pod hstate
    rw [hp]
    intro s3 h3 svc s4 hs4 s5 h5 r s6 hs6 s7 h7
    obtain ⟨-, rfl⟩ := answers_getOpt.mp hs4
    obtain ⟨status, hstatus, hrunning⟩ := hreport svc hphase
    rw [hstatus] at hs6
    obtain ⟨rfl, htold⟩ := told_of_report ((hup.star h3).star h5) hrunning hs6
    exact ⟨rfl, htold.star h7⟩

theorem reconcile_steadily (ctx : Context) (hstate : agent.spec.state ≠ .stopped) (h : Up agent s) :
    Steadily S agent (reconcile ctx agent).run s ∧
      wp (Answers S.exec) (LeavesUp agent) (fun _ r s' => r = .ok ⟨30⟩ ∧ Told agent s')
        (reconcile ctx agent).run s := by
  rw [reconcile_run]
  obtain ⟨hpvc, hpvc'⟩ := ensure_steady (S := S) ctx (k := .pvc) (by decide) h
  have hpod := fun s (h : Up agent s) => podStep_steady (S := S) (s := s) hstate h
  have hchild := fun s k hk (h : Up agent s) => ensure_steady (S := S) (s := s) ctx (k := k) hk h
  have hstatus := fun s (h : Up agent s) => updateStatus_steady (S := S) (s := s) hstate h
  constructor
  · refine hpvc.andThen (wp_mono hpvc' fun _ r s1 h1 _ _ => ?_)
    refine (hpod s1 h1.2).1.andThen (wp_mono (hpod s1 h1.2).2 fun _ r s2 h2 _ _ => ?_)
    obtain ⟨hnetpol, hnetpol'⟩ := hchild s2 .netpol (by decide) h2.2
    refine hnetpol.andThen (wp_mono hnetpol' fun _ r s3 h3 _ _ => ?_)
    obtain ⟨hservice, hservice'⟩ := hchild s3 .service (by decide) h3.2
    refine hservice.andThen (wp_mono hservice' fun _ r s4 h4 _ _ => ?_)
    exact (hstatus s4 h4.2).1.andThen (wp_mono (hstatus s4 h4.2).2 fun _ _ _ _ _ _ => trivial)
  · refine wp_andThen (wp_mono hpvc' ?_)
    rintro - _ s1 ⟨rfl, h1⟩
    refine wp_andThen (wp_mono (hpod s1 h1).2 ?_)
    rintro - _ s2 ⟨rfl, h2⟩
    refine wp_andThen (wp_mono (hchild s2 .netpol (by decide) h2).2 ?_)
    rintro - _ s3 ⟨rfl, h3⟩
    refine wp_andThen (wp_mono (hchild s3 .service (by decide) h3).2 ?_)
    rintro - _ s4 ⟨rfl, h4⟩
    refine wp_andThen (wp_mono (hstatus s4 h4).2 ?_)
    rintro - _ s5 ⟨rfl, h5⟩
    exact fun s6 h6 => ⟨rfl, h5.star h6⟩

/-- Once the stored status tells that the pod runs, every state of a run does. -/
theorem told_passes (ctx : Context) (hstate : agent.spec.state ≠ .stopped) (h : Told agent s)
    (hs : Passes (Answers S.exec) (LeavesUp agent) (reconcile ctx agent).run s s') :
    Told agent s' :=
  Safe.passes (I := Told agent) (fun _ _ h hs => h.others hs)
    (fun _ _ _ _ h hc hs => told_call h hc hs) hs (reconcile_steadily ctx hstate h.up).1 h

end Steadily

/-! ## The turns -/

/-- The times of a turn on the clock that the polls read. -/
def Turn.clock : Periodic.Timing Turn :=
  ⟨Turn.start, Turn.stop, fun r => Api.fromSecs (requeueSecs r.result)⟩

/-- The first turn from `up` on finds the Agent up. -/
def FindsUp (agent : Operator.Agent) (up : Nat) : List Turn → Prop
  | [] => True
  | r :: turns => if up ≤ r.start then Up agent r.before else FindsUp agent up turns

/-- The turns of one Agent. Before `up` anything may happen; from then on every call is carried
out, and the others leave the pod up. -/
structure Uptime (S : Server) (ctx : Context) (agent : Operator.Agent) (limit up : Nat)
    (turns : List Turn) : Prop where
  repeats : Periodic.Repeats Turn.clock limit turns
  ran : ∀ r ∈ turns, ∃ (serves : Cluster → (c : Call) → Answer c → Cluster → Prop)
    (env : Cluster → Cluster → Prop) (copy : Operator.Agent)
    (tr : List (Event Cluster Call Answer)),
    Exec serves env (reconcile ctx copy).run r.before tr r.result r.after
  found : FindsUp agent up turns
  served : ∀ r ∈ turns, up ≤ r.start → ∃ tr,
    Exec (Answers S.exec) (LeavesUp agent) (reconcile ctx agent).run r.before tr r.result r.after
  between : turns.IsChain fun r r' =>
    up ≤ r.start → Relation.ReflTransGen (LeavesUp agent) r.after r'.before

/-- A state that can be read at an instant: in the middle of a turn, or between two. -/
inductive Current (S : Server) (ctx : Context) (agent : Operator.Agent) :
    List Turn → Nat → Cluster → Prop where
  | during {r : Turn} {back : List Turn} {now : Nat} {s : Cluster} :
      Passes (Answers S.exec) (LeavesUp agent) (reconcile ctx agent).run r.before s →
      r.start ≤ now → now ≤ r.stop → Current S ctx agent (r :: back) now s
  | between {r u : Turn} {back : List Turn} {now : Nat} {s : Cluster} :
      Relation.ReflTransGen (LeavesUp agent) r.after s → r.stop ≤ now → now ≤ u.start →
      Current S ctx agent (r :: u :: back) now s
  | later {r : Turn} {back : List Turn} {now : Nat} {s : Cluster} :
      Current S ctx agent back now s → Current S ctx agent (r :: back) now s

namespace Uptime

variable {S : Server} {ctx : Context} {agent : Operator.Agent} {limit up now : Nat}
  {s : Cluster}

theorem finds {r : Turn} {turns : List Turn} (h : Uptime S ctx agent limit up (r :: turns))
    (hup : up ≤ r.start) : Up agent r.before := by
  have hfound := h.found
  rw [FindsUp, if_pos hup] at hfound
  exact hfound

/-- A turn that finds the pod up tells so. -/
theorem tells {r : Turn} {turns : List Turn} (h : Uptime S ctx agent limit up (r :: turns))
    (hstate : agent.spec.state ≠ .stopped) (hup : up ≤ r.start) : Told agent r.after := by
  obtain ⟨tr, hrun⟩ := h.served r List.mem_cons_self hup
  exact (exec_wp hrun (reconcile_steadily ctx hstate (h.finds hup)).2).2

theorem next_told {r u : Turn} {back : List Turn}
    (h : Uptime S ctx agent limit up (r :: u :: back)) (hup : up ≤ r.start)
    (htold : Told agent r.after) : Told agent u.before :=
  htold.star ((List.isChain_cons_cons.mp h.between).1 hup)

theorem next_late {r u : Turn} {back : List Turn}
    (h : Uptime S ctx agent limit up (r :: u :: back)) (hup : up ≤ r.start) : up ≤ u.start :=
  hup.trans (h.repeats.lasts.1.trans (h.repeats.stop_le u List.mem_cons_self))

theorem tail {r : Turn} {turns : List Turn} (hstate : agent.spec.state ≠ .stopped)
    (h : Uptime S ctx agent limit up (r :: turns)) : Uptime S ctx agent limit up turns where
  repeats := h.repeats.tail
  ran := fun u hu => h.ran u (List.mem_cons_of_mem _ hu)
  found := by
    cases turns with
    | nil => trivial
    | cons u back =>
      by_cases hup : up ≤ r.start
      · -- what the turn leaves is still there at the next
        rw [FindsUp, if_pos (h.next_late hup)]
        exact (h.next_told hup (h.tells hstate hup)).up
      · have hfound := h.found
        rwa [FindsUp, if_neg hup] at hfound
  served := fun u hu => h.served u (List.mem_cons_of_mem _ hu)
  between := h.between.tail

theorem of_append (hstate : agent.spec.state ≠ .stopped) {front turns : List Turn}
    (h : Uptime S ctx agent limit up (front ++ turns)) : Uptime S ctx agent limit up turns := by
  induction front with
  | nil => exact h
  | cons r front ih => exact ih (h.tail hstate)

theorem pauses {turns : List Turn} (h : Uptime S ctx agent limit up turns) :
    ∀ r ∈ turns, Turn.clock.pause r ≤ Api.fromSecs 30 := by
  intro r hr
  obtain ⟨serves, env, copy, tr, hrun⟩ := h.ran r hr
  have hsecs := exec_returns (B := fun r => requeueSecs r ≤ 30) hrun (reconcile_requeues ctx copy)
  exact Nat.mul_le_mul_right _ hsecs

/-- From a turn that finds it told on, every state is. -/
theorem told_from (hstate : agent.spec.state ≠ .stopped) {r : Turn} {back : List Turn}
    (h : Uptime S ctx agent limit up (r :: back)) (hup : up ≤ r.start)
    (htold : Told agent r.before) (hs : Current S ctx agent (r :: back) now s) :
    Told agent s := by
  have hafter := h.tells hstate hup
  induction back generalizing r with
  | nil =>
    cases hs with
    | during hpass _ _ =>
      exact told_passes ctx hstate htold hpass
    | later hs => cases hs
  | cons u back ih =>
    cases hs with
    | during hpass _ _ =>
      exact told_passes ctx hstate htold hpass
    | between hs _ _ => exact hafter.star hs
    | later hs =>
      have hu := h.next_late hup
      have htail := h.tail hstate
      exact ih htail hu (h.next_told hup hafter) hs (htail.tells hstate hu)

/-- A moment past the start of a turn is not in or right after the turns before it. -/
theorem current_of_append (hstate : agent.spec.state ≠ .stopped) {front back : List Turn} {t : Turn}
    (h : Uptime S ctx agent limit up (front ++ t :: back)) (hfront : ∀ u ∈ front, u.start < up)
    (ht : t.start < now) (hlate : up + limit ≤ now)
    (hs : Current S ctx agent (front ++ t :: back) now s) :
    Current S ctx agent (t :: back) now s := by
  induction front with
  | nil => exact hs
  | cons r front ih =>
    have hr : r.start < up := hfront r List.mem_cons_self
    have hstop : r.stop ≤ r.start + limit := h.repeats.lasts.2
    have hnext : ∀ u rest, front ++ t :: back = u :: rest → u.start < now := by
      intro u rest heq
      cases front with
      | nil =>
        obtain rfl := (List.cons.inj heq).1
        exact ht
      | cons v front =>
        obtain rfl := (List.cons.inj heq).1
        have hv := hfront v (List.mem_cons_of_mem _ List.mem_cons_self)
        omega
    have hrest := ih (h.tail hstate) fun u hu => hfront u (List.mem_cons_of_mem _ hu)
    rw [List.cons_append] at hs
    generalize hturns : front ++ t :: back = turns at hs hnext hrest
    cases hs with
    | during _ _ hnow => omega
    | between _ _ hnow => exact absurd (hnext _ _ rfl) (Nat.not_lt.mpr hnow)
    | later hs => exact hrest hs

/-- A moment that is not right after `up` is in a turn that started from `up` on, or before one. -/
theorem current_start (hstate : agent.spec.state ≠ .stopped) {turns : List Turn}
    (h : Uptime S ctx agent limit up turns) (hlate : up + limit ≤ now)
    (hs : Current S ctx agent turns now s) :
    ∃ u ∈ turns, up ≤ u.start := by
  induction hs with
  | @during r back now s _ _ hnow =>
    have hstop : r.stop ≤ r.start + limit := h.repeats.lasts.2
    exact ⟨r, List.mem_cons_self, by omega⟩
  | @between r u back now s _ _ hnow =>
    exact ⟨u, List.mem_cons_of_mem _ List.mem_cons_self, by omega⟩
  | later _ ih =>
    obtain ⟨u, hu, hup⟩ := ih (h.tail hstate) hlate
    exact ⟨u, List.mem_cons_of_mem _ hu, hup⟩

end Uptime

/-- How long it can take until every state tells that the pod runs: a run that came too early, its
pause, and the run after it. -/
def toldFrom (limit up : Nat) : Nat := up + Api.fromSecs 30 + 2 * limit

/-- The runs of the controller while the pod is up: after two of them and one pause, every state
tells it, also in the middle of a run. -/
theorem told_in_time {S : Server} {ctx : Context} {agent : Operator.Agent}
    {limit up now : Nat} {s : Cluster} (hstate : agent.spec.state ≠ .stopped) {r₀ : Turn}
    {turns : List Turn} (h : Uptime S ctx agent limit up (r₀ :: turns)) (hbefore : r₀.start ≤ up)
    (hs : Current S ctx agent (r₀ :: turns) now s) (hlate : toldFrom limit up < now) :
    Told agent s := by
  unfold toldFrom at hlate
  have hsome : ∃ u ∈ r₀ :: turns, up ≤ u.start := h.current_start hstate (by omega) hs
  obtain ⟨front, t, back, hsplit, hfront, ht, ht'⟩ :=
    h.repeats.first_from h.pauses hbefore hsome
  replace ht : up ≤ t.start := ht
  replace ht' : t.start ≤ up + limit + Api.fromSecs 30 := ht'
  rw [hsplit] at h hs
  have hcurrent := h.current_of_append hstate hfront (by omega) (by omega) hs
  have hturns := h.of_append hstate
  have hstop : t.stop ≤ t.start + limit := hturns.repeats.lasts.2
  have hafter := hturns.tells hstate ht
  cases hcurrent with
  | during _ _ hnow => omega
  | between hs _ _ => exact hafter.star hs
  | later hs =>
    cases back with
    | nil => cases hs
    | cons u back =>
      exact (hturns.tail hstate).told_from hstate (hturns.next_late ht)
        (hturns.next_told ht hafter) hs

/-! ## The polls -/

theorem Told.hits {agent : Operator.Agent} {s : Cluster} (h : Told agent s)
    (hstate : agent.spec.state ≠ .stopped) (now : Api.Instant) :
    (Api.Poll.mk now (Api.decodeAnswer (.ok (s.agents agent.nameAny)))).Hits "running" := by
  obtain ⟨o, status, ho, hreads, hphase⟩ := h.status
  have hspec : Api.AgentSpec.fromJson o.spec = some agent.spec.toApi := by
    have hread := hreads.spec
    cases hobj : o.spec with
    | obj f =>
      rw [hobj] at hread
      exact (AgentSpec.api_fromJson_obj f agent.spec).mpr hread
    | _ =>
      rw [hobj] at hread
      cases hread
  have hdecoded : Api.decodeAgent o = .ok ⟨o.metadata, agent.spec.toApi, some status.toApi⟩ :=
    Api.decodeAgent_ok.mpr ⟨rfl, hspec, AgentStatus.api_fromStored_some hreads.status⟩
  refine ⟨⟨o.metadata, agent.spec.toApi, some status.toApi⟩, ?_, ?_⟩
  · rw [ho]
    show Except.map some (Api.decodeAgent o) = _
    rw [hdecoded]
    rfl
  · have hrunning : agent.spec.toApi.state ≠ .stopped := by
      show agent.spec.state.toApi ≠ _
      cases hs : agent.spec.state with
      | running => decide
      | stopped => exact (hstate hs).elim
    have hknown : KnownPhase (some "Running") := by simp [KnownPhase]
    exact derive_of_phase hrunning hphase hknown

/-- The polls of a stream: none comes late or fails, and past `told` each reads a current state. -/
structure Polling (S : Server) (ctx : Context) (agent : Operator.Agent) (turns : List Turn)
    (gap told start : Nat) (polls : List Api.Poll) : Prop where
  prompt : Deadline.Prompt gap start (polls.map Api.Poll.now)
  carried : ∀ p ∈ polls, ∀ e, p.answer ≠ .error e
  reads : ∀ p ∈ polls, told < p.now → ∃ s, Current S ctx agent turns p.now s ∧
    p.answer = Api.decodeAnswer (.ok (s.agents agent.nameAny))

/-- A stream that waits for `running`, while the pod is up: where the deadline leaves the time for
two runs of the controller, their pause and one poll, the stream ends with success and no error. -/
theorem stream_ready {S : Server} {ctx : Context} {agent : Operator.Agent} {limit up gap : Nat}
    (hstate : agent.spec.state ≠ .stopped) {r₀ : Turn} {turns : List Turn}
    (h : Uptime S ctx agent limit up (r₀ :: turns)) (hbefore : r₀.start ≤ up) {r : Api.Request}
    {w : Api.Wait} (hw : r.wait = some w) (htarget : w.target = "running")
    {serves : Cluster → (c : Call) → Answer c → Cluster → Prop} {env : Cluster → Cluster → Prop}
    {s s' : Cluster} {tr : List (Event Cluster Call Answer)} {stream : Api.Stream}
    (hstream : Exec serves env r.handler s tr (.ok stream) s') {start : Nat}
    {polls : List Api.Poll}
    (hpolls : Polling S ctx agent (r₀ :: turns) gap (toldFrom limit up) start polls)
    (hfits : max start (toldFrom limit up) + gap ≤ w.deadline start)
    (hlate : ∃ p ∈ polls, max start (toldFrom limit up) < p.now) :
    (stream start polls).finished = true ∧ Api.Succeeded w (stream start polls) := by
  obtain rfl := exec_returns hstream (Api.handler_stream hw) stream rfl
  obtain ⟨front, p, back, rfl, hfront, hp, hp'⟩ :=
    hpolls.prompt.first_after (Nat.le_max_left _ _) hlate
  -- the first poll past that moment finds the status, unless one before it did
  have hhits : p.Hits w.target := by
    obtain ⟨s, hs, hanswer⟩ := hpolls.reads p (by simp) (lt_of_le_of_lt (Nat.le_max_right _ _) hp)
    have htold := told_in_time hstate h hbefore hs (lt_of_le_of_lt (Nat.le_max_right _ _) hp)
    rw [htarget, show p = ⟨p.now, p.answer⟩ from rfl, hanswer]
    exact htold.hits hstate p.now
  have hundisturbed : Api.Undisturbed w.target (w.deadline start) (front ++ p :: back) := by
    intro i q hq hmissed
    refine ⟨?_, hpolls.carried q (List.mem_of_getElem? hq)⟩
    rcases Nat.lt_trichotomy i front.length with hi | hi | hi
    · rw [List.getElem?_append_left hi] at hq
      have hnow := hfront q (List.mem_of_getElem? hq)
      exact (hnow.trans (Nat.le_add_right _ gap)).trans hfits
    · rw [hi, List.getElem?_append_right (Nat.le_refl _), Nat.sub_self] at hq
      obtain rfl : p = q := Option.some.inj hq
      exact hp'.trans hfits
    · refine (hmissed front.length p hi ?_ hhits).elim
      rw [List.getElem?_append_right (Nat.le_refl _), Nat.sub_self]
      rfl
  have hfinished : (w.stream r.name start (front ++ p :: back)).finished = true := by
    by_contra hnot
    exact Api.pollLoop_unfinished w.target_ne (by simpa [Api.stream_finished] using hnot) p
      (by simp) hhits
  obtain ⟨hnoerror, hcount⟩ := Api.events_undisturbed r.name hundisturbed
  refine ⟨hfinished, ?_, hnoerror⟩
  rw [if_pos hfinished] at hcount
  obtain ⟨e, he, houtcome⟩ := List.countP_pos_iff.mp (hcount ▸ Nat.one_pos)
  have hname : e.name = "error" ∨ e.name = w.report := by simpa [Api.Wait.isOutcome] using houtcome
  exact ⟨e, he, hname.resolve_left (hnoerror e he)⟩

/-- From when the Agent and its pod are up, and as long as they stay so: after two runs of the
controller and one pause, every state that can be read tells that the pod runs, also in the middle
of a run; and a stream that waits for `running` and has the time for that and one poll more ends
with success and no error. -/
theorem ready_in_time {S : Server} {ctx : Context} {agent : Operator.Agent} {limit up : Nat}
    (hstate : agent.spec.state ≠ .stopped) {r₀ : Turn} {turns : List Turn}
    (h : Uptime S ctx agent limit up (r₀ :: turns)) (hbefore : r₀.start ≤ up) :
    (∀ {now : Nat} {s : Cluster}, Current S ctx agent (r₀ :: turns) now s →
      toldFrom limit up < now → Told agent s) ∧
    ∀ {r : Api.Request} {w : Api.Wait}, r.wait = some w → w.target = "running" →
      ∀ {serves : Cluster → (c : Call) → Answer c → Cluster → Prop}
        {env : Cluster → Cluster → Prop} {s s' : Cluster}
        {tr : List (Event Cluster Call Answer)} {stream : Api.Stream},
      Exec serves env r.handler s tr (.ok stream) s' →
      ∀ {gap start : Nat} {polls : List Api.Poll},
      Polling S ctx agent (r₀ :: turns) gap (toldFrom limit up) start polls →
      max start (toldFrom limit up) + gap ≤ w.deadline start →
      (∃ p ∈ polls, max start (toldFrom limit up) < p.now) →
      (stream start polls).finished = true ∧ Api.Succeeded w (stream start polls) := by
  constructor
  · intro now s hs hlate
    exact told_in_time hstate h hbefore hs hlate
  · intro r w hw htarget serves env s s' tr stream hstream gap start polls hpolls hfits hlate
    exact stream_ready hstate h hbefore hw htarget hstream hpolls hfits hlate

/-! ## A start -/

/-- A pod of the sample Agent that runs. -/
def sampleRunning : Pod :=
  { buildPod (Agent.sample "a" "uid-1" .running) with status := some { phase := some "Running" } }

/-- A turn of two seconds. -/
def sampleCalm (start : Nat) (before : Cluster) : Turn :=
  let out := (reconcile {} (Agent.sample "a" "uid-1" .running)).run.run Server.verbatim.exec before
  ⟨Api.fromSecs start, Api.fromSecs (start + 2), before, out.2, out.1⟩

/-- The first turn puts the other children in place, while the pod comes up. -/
def sampleStarted : Turn := sampleCalm 0 (sampleWithPod .running sampleRunning)

def sampleTold : Turn := sampleCalm 32 sampleStarted.after

def sampleTurns : List Turn :=
  [sampleStarted, sampleTold, sampleCalm 64 sampleTold.after]

theorem sampleStarted_up : Up (Agent.sample "a" "uid-1" .running) sampleStarted.after where
  healthy := by
    refine ⟨rfl, fun k hk hpod => ?_, ?_⟩
    · simp only [List.mem_cons, List.not_mem_nil, or_false] at hk
      rcases hk with rfl | rfl | rfl <;> rfl
    · have hstate : (Agent.sample "a" "uid-1" .running).spec.state ≠ .stopped := by decide
      rw [Right, if_neg hstate]
      exact ⟨sampleRunning, rfl, rfl, podNeedsUpdate_buildPod (Agent.sample "a" "uid-1" .running)⟩
  stored := by
    let agent := Agent.sample "a" "uid-1" .running
    let o : AgentObject := ⟨agent.metadata, agent.spec.toJson, none⟩
    have hstatus : AgentStatus.fromStored o.status = some none := rfl
    exact ⟨_, _, rfl, AgentSpec.fromJson_toJson agent.spec, fromStored_patchStatus hstatus _⟩
  runs := by
    intro p hp
    obtain rfl : sampleRunning = p := Option.some.inj hp
    refine ⟨rfl, fun hcrash => ?_⟩
    obtain ⟨status, statuses, cs, state, waiting, hstatus, hstatuses, -⟩ := hcrash
    cases hstatus
    cases hstatuses

theorem sampleTurns_uptime : Uptime Server.verbatim {} (Agent.sample "a" "uid-1" .running)
    (Api.fromSecs 2) (Api.fromSecs 1) sampleTurns := by
  have hserved : ∀ start before, ∃ tr, Exec (Answers Server.verbatim.exec)
      (LeavesUp (Agent.sample "a" "uid-1" .running))
      (reconcile {} (Agent.sample "a" "uid-1" .running)).run before tr
      (sampleCalm start before).result (sampleCalm start before).after :=
    fun _ _ => ⟨_, run_exec _ _⟩
  have hlasts : ∀ start before, Turn.clock.Lasts (Api.fromSecs 2) (sampleCalm start before) := by
    intro start before
    exact ⟨Nat.mul_le_mul_right _ (Nat.le_add_right ..), Nat.le_of_eq (Nat.add_mul ..)⟩
  have hfollows : ∀ start before before', (sampleCalm start before).result = .ok ⟨30⟩ →
      Turn.clock.Follows (sampleCalm start before) (sampleCalm (start + 32) before') := by
    intro start before before' hresult
    refine ⟨Nat.mul_le_mul_right _ (by omega), ?_⟩
    show Api.fromSecs (start + 32) ≤
      Api.fromSecs (start + 2) + Api.fromSecs (requeueSecs (sampleCalm start before).result)
    rw [hresult]
    exact Nat.le_of_eq (Nat.add_mul (start + 2) 30 _)
  refine ⟨?_, fun r hr => ?_, ?_, fun r hr _ => ?_, ?_⟩
  · refine .cons (hlasts _ _) (hfollows 0 _ _ rfl) ?_
    exact .cons (hlasts _ _) (hfollows 32 _ _ rfl) (.single (hlasts _ _))
  · simp only [sampleTurns, List.mem_cons, List.not_mem_nil, or_false] at hr
    rcases hr with rfl | rfl | rfl <;> exact ⟨_, _, _, hserved _ _⟩
  · have hearly : ¬ Api.fromSecs 1 ≤ sampleStarted.start := by decide
    have hlate : Api.fromSecs 1 ≤ sampleTold.start := by decide
    rw [sampleTurns, FindsUp, if_neg hearly, FindsUp, if_pos hlate]
    exact sampleStarted_up
  · simp only [sampleTurns, List.mem_cons, List.not_mem_nil, or_false] at hr
    rcases hr with rfl | rfl | rfl <;> exact hserved _ _
  · exact .cons_cons (fun _ => .refl) (.cons_cons (fun _ => .refl) (.singleton _))

/-- A start request, whose stream polls once, after the report. -/
theorem ready_in_time_started :
    Told (Agent.sample "a" "uid-1" .running) sampleTold.after ∧
    ∃ w stream, (Api.Request.start "a").wait = some w ∧
      (run Server.verbatim.exec (Api.Request.start "a").handler sampleStarted.before).1 =
        .ok stream ∧
      Api.Succeeded w (stream 0 [⟨Api.fromSecs 36,
        Api.decodeAnswer (.ok (sampleTold.after.agents "a"))⟩]) := by
  have hrun : Exec (Answers Server.verbatim.exec) Alone (Api.Request.start "a").handler
      sampleStarted.before _ _ _ :=
    run_exec ..
  have hcurrent : Current Server.verbatim {} (Agent.sample "a" "uid-1" .running) sampleTurns
      (Api.fromSecs 36) sampleTold.after :=
    .later (.between .refl (by decide) (by decide))
  obtain ⟨htells, hsucceeds⟩ := ready_in_time (by decide) sampleTurns_uptime (by decide)
  have htold := htells hcurrent (by decide)
  have hpolls : Polling Server.verbatim {} (Agent.sample "a" "uid-1" .running) sampleTurns
      (Api.fromSecs 40) (toldFrom (Api.fromSecs 2) (Api.fromSecs 1)) 0
      [⟨Api.fromSecs 36, Api.decodeAnswer (.ok (sampleTold.after.agents "a"))⟩] := by
    refine ⟨⟨by decide, trivial⟩, fun p hp e he => ?_, fun p hp _ => ?_⟩
    · obtain rfl := List.mem_singleton.mp hp
      obtain ⟨agent, hanswer, -⟩ := htold.hits (by decide) (Api.fromSecs 36)
      exact absurd (hanswer.symm.trans he) (by simp)
    · obtain rfl := List.mem_singleton.mp hp
      exact ⟨_, hcurrent, rfl⟩
  refine ⟨htold, .ready, _, rfl, rfl, ?_⟩
  exact (hsucceeds (w := .ready) rfl rfl hrun hpolls (by decide)
    ⟨_, List.mem_singleton.mpr rfl, by decide⟩).2

end System
end AgentHosting
