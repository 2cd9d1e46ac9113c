import AgentHosting.Api.Waiting
import AgentHosting.System.Tasks

/-!
# AgentHosting.System.Completion

Whether the success event of a stop or a restart means that the pod of the request is gone. The
stream looks at the Agent only: at the desired state, which the request itself has changed, and at a
status that may still be that of the old pod.

* `PodStored`, `gone_step` — the pod of the request, which stays away once it is gone.
* `Phase`                  — where the task of a request stands, and what its success then means.
* `success_implies_gone`   — in every run in which no poll finds the target status while the pod is
  stored, success means that the pod is gone.
* `success_with_pod`       — runs of a stop and of a restart that succeed with the pod in place.
-/

namespace AgentHosting
namespace System

open Kube Prog

/-! ## The pod of a request -/

/-- The pod of the Agent called `name` is stored, and has the uid. -/
def PodStored (name uid : String) (s : Cluster) : Prop :=
  ∃ p, s.objs .pod (Operator.podName name) = some p ∧ p.metadata.uid = some uid

/-- The server deletes pods gracefully, and gives new ones other uids. -/
structure FreshPods (uid : String) (S : Server) : Prop where
  graceful : S.graceful = true
  fresh : ∀ p : Pod, (S.stored (k := .pod) p).metadata.uid ≠ some uid

/-- A call served by some such server; any call may fail, with or without its effect. -/
def ServedFresh (uid : String) (s : Cluster) (c : Call) (r : Answer c) (s' : Cluster) : Prop :=
  ∃ S : Server, FreshPods uid S ∧ S.Faulty s c r s'

/-- Any number of operator runs and requests, and the nodes. -/
abbrev FreshStep (ctx : Operator.Context) (uid : String) :
    World Nat → Label Nat → World Nat → Prop :=
  Pool.Step (Spawns ctx) (ServedFresh uid) Kubelet

section Gone

variable {ctx : Operator.Context} {name uid : String}

theorem podStored_set {s : Cluster} {n : String} {o : Option Pod}
    (h : PodStored name uid (s.set .pod n o)) (ho : ∀ p, o = some p → p.metadata.uid = some uid →
      ∃ q, s.objs .pod n = some q ∧ q.metadata.uid = some uid) : PodStored name uid s := by
  obtain ⟨p, hp, huid⟩ := h
  by_cases hn : Operator.podName name = n
  · subst hn
    rw [Cluster.set_same] at hp
    exact ho p hp huid
  · rw [Cluster.set_other_name _ _ hn] at hp
    exact ⟨p, hp, huid⟩

theorem podStored_kubelet {s s' : Cluster} (hs : Kubelet s s') (h : PodStored name uid s') :
    PodStored name uid s := by
  cases hs with
  | finish _ _ => exact podStored_set h fun p hp => by cases hp
  | @report n p nodeName status hp =>
    refine podStored_set h fun q hq huid => ⟨p, hp, ?_⟩
    rw [← Option.some.inj hq] at huid
    exact huid

theorem podStored_call {i : TaskId Nat} {c : Call} {r : Answer c} {s s' : Cluster}
    (hc : TaskCall ctx i c) (hs : ServedFresh uid s c r s') (h : PodStored name uid s') :
    PodStored name uid s := by
  obtain ⟨S, hS, hs⟩ := hs
  rcases taskCall_effect hc hs with hobjs | ⟨agent, k, rfl, -, rfl⟩ | ⟨other, p, hp, rfl⟩
  · rw [PodStored, ← hobjs]
    exact h
  · by_cases hk : k = .pod
    · subst hk
      refine podStored_set h fun q hq huid => ?_
      rw [← Option.some.inj hq] at huid
      exact (hS.fresh _ huid).elim
    · obtain ⟨q, hq, huid⟩ := h
      rw [Cluster.set_other_kind _ (Ne.symm hk)] at hq
      exact ⟨q, hq, huid⟩
  · refine podStored_set h fun q hq huid => ⟨p, hp, ?_⟩
    simp only [Server.remains, hS.graceful, if_true] at hq
    rw [← Option.some.inj hq] at huid
    exact huid

/-- Once gone, the pod stays away. -/
theorem gone_step {v v' : World Nat} {l : Label Nat} (htasks : v.TasksIn (TaskCall ctx))
    (hs : FreshStep ctx uid v l v') (h : ¬ PodStored name uid v.state) :
    ¬ PodStored name uid v'.state := by
  cases hs with
  | spawn _ _ => exact h
  | call hi hserve => exact fun h' => h (podStored_call (htasks _ _ hi).1 hserve h')
  | exit _ => exact h
  | env he => exact fun h' => h (podStored_kubelet he h')

end Gone

/-! ## The task of a request -/

section Phase

variable {ctx : Operator.Context} {w : Api.Wait} {name uid : String} {start : Api.Instant}

/-- The rest of a request whose stream has seen these polls. -/
def streamTask (w : Api.Wait) (name : String) (start : Api.Instant) (clock : List Api.Instant)
    (polls : List Api.Poll) : Prog Call Answer Outcome :=
  (Api.watch (w.stream name) name start clock polls).bind fun run => .ret (.answered (.ok run))

theorem streamTask_ret {clock : List Api.Instant} {polls : List Api.Poll} {a : Outcome}
    (h : streamTask w name start clock polls = .ret a) :
    a = .answered (.ok (w.stream name start polls)) := by
  cases clock with
  | nil => exact (Prog.ret.inj h).symm
  | cons now clock =>
    unfold streamTask Api.watch at h
    split at h
    · exact (Prog.ret.inj h).symm
    · cases h

theorem streamTask_call {clock : List Api.Instant} {polls : List Api.Poll} {c : Call}
    {k : Answer c → Prog Call Answer Outcome}
    (h : streamTask w name start clock polls = .call c k) :
    ∃ now rest, (w.stream name start polls).finished = false ∧
      Prog.call c k = .call (.getAgent name) fun r =>
        streamTask w name start rest (polls ++ [⟨now, Api.decodeAnswer r⟩]) := by
  cases clock with
  | nil => cases h
  | cons now rest =>
    refine ⟨now, rest, ?_⟩
    unfold streamTask Api.watch at h
    split at h
    · cases h
    · rename_i hfinished
      exact ⟨by simpa using hfinished, h.symm⟩

/-- The task is in its handler, or polling; success while polling means that the pod is gone. -/
def Phase (w : Api.Wait) (name uid : String) (start : Api.Instant) (s : Cluster)
    (p : Prog Call Answer Outcome) : Prop :=
  (∃ (q : Prog Call Answer (Except Api.AppError Api.Stream)) (clock : List Api.Instant),
    p = q.bind (afterHandler name start clock) ∧
      q.Returns fun a => ∀ stream, a = .ok stream → stream = w.stream name) ∨
  ∃ clock polls, p = streamTask w name start clock polls ∧
    (Api.Succeeded w (w.stream name start polls) → ¬ PodStored name uid s)

theorem Phase.mono {s s' : Cluster} {p : Prog Call Answer Outcome}
    (h : Phase w name uid start s p) (hgone : ¬ PodStored name uid s → ¬ PodStored name uid s') :
    Phase w name uid start s' p := by
  rcases h with h | ⟨clock, polls, hp, hsuccess⟩
  · exact .inl h
  · exact .inr ⟨clock, polls, hp, fun hs => hgone (hsuccess hs)⟩

theorem Phase.cases {s : Cluster} {p : Prog Call Answer Outcome}
    (h : Phase w name uid start s p) :
    (∃ c k clock, p = (Prog.call c k).bind (afterHandler name start clock) ∧
      ∀ r, (k r).Returns fun a => ∀ stream, a = .ok stream → stream = w.stream name) ∨
    (∃ e, p = .ret (.answered (.error e))) ∨
    ∃ clock polls, p = streamTask w name start clock polls ∧
      (Api.Succeeded w (w.stream name start polls) → ¬ PodStored name uid s) := by
  rcases h with ⟨q, clock, rfl, hq⟩ | h
  · cases q with
    | call c k => exact .inl ⟨c, k, clock, rfl, hq⟩
    | ret a =>
      rcases a with e | stream
      · exact .inr (.inl ⟨e, rfl⟩)
      · obtain rfl := hq stream rfl
        refine .inr (.inr ⟨clock, [], rfl, fun hs => ?_⟩)
        exact (Api.not_succeeded_of_unfinished rfl hs).elim
  · exact .inr (.inr h)

def ReadsAs (status name : String) (s : Cluster) : Prop :=
  ∃ o agent, s.agents name = some o ∧ Api.decodeAgent o = .ok agent ∧
    Api.deriveStatus agent = status

/-- The step is no poll that finds the target status while the pod is stored. -/
def PollsTruly (w : Api.Wait) (name uid : String) (start : Api.Instant) (n : Nat) (v : World Nat)
    (l : Label Nat) : Prop :=
  ∀ c r clock polls, l = .call (.api n) c r →
    v.progs (.api n) = some (streamTask w name start clock polls) →
      ReadsAs w.target name v.state → ¬ PodStored name uid v.state

theorem readsAs_of_hits {s s' : Cluster} {r : Answer (.getAgent name)} {now : Api.Instant}
    (hs : ServedFresh uid s (.getAgent name) r s')
    (h : (Api.Poll.mk now (Api.decodeAnswer r)).Hits w.target) :
    s' = s ∧ ReadsAs w.target name s := by
  obtain ⟨S, -, hs⟩ := hs
  obtain ⟨rfl, hr⟩ := hs.getAgent
  obtain ⟨agent, hanswer, hstatus⟩ := h
  refine ⟨rfl, ?_⟩
  rcases hr with rfl | ⟨e, rfl⟩
  · cases ho : s'.agents name with
    | none =>
      rw [ho] at hanswer
      cases hanswer
    | some o =>
      rw [ho] at hanswer
      refine ⟨o, agent, ho, ?_, hstatus⟩
      simp only [Api.decodeAnswer] at hanswer
      cases hd : Api.decodeAgent o with
      | ok agent' =>
        rw [hd] at hanswer
        exact congrArg Except.ok (Option.some.inj (Except.ok.inj hanswer))
      | error e =>
        rw [hd] at hanswer
        cases hanswer
  · cases hanswer

theorem Phase.call {n : Nat} {v : World Nat} {c : Call} {k : Answer c → Prog Call Answer Outcome}
    {r : Answer c} {s' : Cluster} (h : Phase w name uid start v.state (.call c k))
    (hprog : v.progs (.api n) = some (.call c k))
    (htruly : PollsTruly w name uid start n v (.call (.api n) c r))
    (hs : ServedFresh uid v.state c r s') : Phase w name uid start s' (k r) := by
  rcases h.cases with ⟨c', k', clock, heq, hreturns⟩ | ⟨e, heq⟩ | ⟨clock, polls, heq, hsuccess⟩
  · rw [call_bind] at heq
    cases heq
    exact .inl ⟨k' r, clock, rfl, hreturns r⟩
  · cases heq
  · obtain ⟨now, rest, hunfinished, hcall⟩ := streamTask_call heq.symm
    cases hcall
    refine .inr ⟨rest, polls ++ [⟨now, Api.decodeAnswer r⟩], rfl, fun hsucceeded => ?_⟩
    have hhits := Api.hits_of_succeeded hunfinished hsucceeded
    obtain ⟨rfl, hreads⟩ := readsAs_of_hits hs hhits
    exact htruly _ r clock polls rfl (by rw [hprog, heq]) hreads

theorem phase_step {n : Nat} {v v' : World Nat} {l : Label Nat}
    (htasks : v.TasksIn (TaskCall ctx)) (hs : FreshStep ctx uid v l v')
    (hnoexit : ∀ a, l ≠ .exit (.api n) a) (htruly : PollsTruly w name uid start n v l)
    (h : ∃ p, v.progs (.api n) = some p ∧ Phase w name uid start v.state p) :
    ∃ p, v'.progs (.api n) = some p ∧ Phase w name uid start v'.state p := by
  obtain ⟨p, hp, hphase⟩ := h
  have hgone : ¬ PodStored name uid v.state → ¬ PodStored name uid v'.state :=
    gone_step htasks hs
  cases hs with
  | @spawn j q hj hspawn =>
    have hne : TaskId.api n ≠ j := fun e => by
      subst e
      rw [hp] at hj
      cases hj
    exact ⟨p, by rw [Pool.setProg_other _ hne]; exact hp, hphase⟩
  | @call j c k r s' hj hserve =>
    by_cases hne : TaskId.api n = j
    · subst hne
      obtain rfl : p = .call c k := Option.some.inj (hp.symm.trans hj)
      exact ⟨k r, Pool.setProg_same .., hphase.call hp htruly hserve⟩
    · exact ⟨p, by rw [Pool.setProg_other _ hne]; exact hp, hphase.mono hgone⟩
  | @exit j a hj =>
    have hne : TaskId.api n ≠ j := fun e => by
      subst e
      exact hnoexit a rfl
    exact ⟨p, by rw [Pool.setProg_other _ hne]; exact hp, hphase⟩
  | env he => exact ⟨p, hp, hphase.mono hgone⟩

end Phase

/-- A request that waits for a status, among any number of operator runs, other requests and steps
of the nodes; `uid` is that of the pod there is when the request is made. If no poll finds the
target status while this pod is stored, then the pod is gone once success was reported and no
error. -/
theorem success_implies_gone {ctx : Operator.Context} {r : Api.Request} {w : Api.Wait}
    {uid : String} {start : Api.Instant} {clock : List Api.Instant} {n : Nat} {v₀ v₁ v : World Nat}
    {tr : List (World Nat × Label Nat)} {run : Api.StreamRun} (hw : r.wait = some w)
    (htasks : v₀.TasksIn (TaskCall ctx))
    (hstart : FreshStep ctx uid v₀ (.spawn (.api n) (requestTask r start clock)) v₁)
    (h : Run (FreshStep ctx uid) v₁ tr v) (hnoexit : ∀ e ∈ tr, ∀ a, e.2 ≠ .exit (.api n) a)
    (htruly : ∀ e ∈ tr, PollsTruly w r.name uid start n e.1 e.2)
    (hend : v.progs (.api n) = some (.ret (.answered (.ok run)))) (hsuccess : Api.Succeeded w run) :
    ¬ PodStored r.name uid v.state := by
  have hstep : ∀ (v : World Nat) l v', v.TasksIn (TaskCall ctx) → FreshStep ctx uid v l v' →
      v'.TasksIn (TaskCall ctx) := fun _ _ _ hi hs =>
    Pool.tasks_step (A := TaskCall ctx) (fun _ _ => spawns_calls) hi hs
  have hfirst : ∃ p, v₁.progs (.api n) = some p ∧ Phase w r.name uid start v₁.state p := by
    cases hstart with
    | spawn _ _ =>
      refine ⟨_, Pool.setProg_same .., .inl ⟨r.handler, clock, rfl, ?_⟩⟩
      exact Api.handler_stream hw
  have hinv := h.invariant_of
    (I := fun v => v.TasksIn (TaskCall ctx) ∧
      ∃ p, v.progs (.api n) = some p ∧ Phase w r.name uid start v.state p)
    (G := fun v l => (∀ a, l ≠ .exit (.api n) a) ∧ PollsTruly w r.name uid start n v l)
    (fun v l v' hi hg hs => ⟨hstep v l v' hi.1 hs, phase_step hi.1 hs hg.1 hg.2 hi.2⟩)
    (fun e he => ⟨hnoexit e he, htruly e he⟩) ⟨hstep _ _ _ htasks hstart, hfirst⟩
  obtain ⟨-, p, hp, hphase⟩ := hinv
  obtain rfl : p = .ret (.answered (.ok run)) := Option.some.inj (hp.symm.trans hend)
  rcases hphase.cases with ⟨c, k, clock', heq, -⟩ | ⟨e, heq⟩ | ⟨clock', polls, heq, hgone⟩
  · cases heq
  · cases heq
  · obtain rfl : run = w.stream r.name start polls := by
      have hret := streamTask_ret heq.symm
      cases hret
      rfl
    exact hgone hsuccess

/-! ## Runs with success -/

section Sample

/-- A server that deletes gracefully and gives new pods the uid `pod-2`. -/
def Server.samplePods : Server where
  stored := fun {k} =>
    match k with
    | .pod => fun (p : Pod) => { p with metadata := { p.metadata with uid := some "pod-2" } }
    | .pvc | .netpol | .service => id
  storedAgent := id
  graceful := true
  deletedAt := "2026-01-01T00:00:00Z"

theorem freshPods_sample : FreshPods "pod-1" Server.samplePods := by
  refine ⟨rfl, fun p h => ?_⟩
  exact absurd (Option.some.inj h) (by decide)

/-- An Agent that was reported running, with its pod. -/
def sampleReported (deletedAt : Option String) : Cluster :=
  let agent := Operator.Agent.sample "a" "uid-1" .running
  let pod := Operator.buildPod agent
  (Cluster.empty.setAgent "a" (some ⟨agent.metadata, agent.spec.toJson,
    some (Json.object [("phase", .str "Running")])⟩)).set .pod "agent-a" (some { pod with
      metadata := { pod.metadata with uid := some "pod-1", deletionTimestamp := deletedAt }
      status := some { phase := some "Running" } })

theorem served_samplePods (s : Cluster) (c : Call) :
    ServedFresh "pod-1" s c (Server.samplePods.exec s c).1 (Server.samplePods.exec s c).2 :=
  ⟨Server.samplePods, freshPods_sample, .served⟩

/-- A request for this Agent up to the end of its stream, the first poll three seconds later. -/
def worldAnswered (r : Api.Request) : World Nat :=
  (World.initial (sampleReported none)).advanced Server.samplePods.exec (.api 0)
    (requestTask r 0 [Api.fromSecs 3]) 3

theorem run_answered (r : Api.Request) : ∃ tr, Run (FreshStep {} "pod-1")
    (World.initial (sampleReported none)) tr (worldAnswered r) := by
  obtain ⟨tr, hrun, -⟩ := Pool.run_advanced Kubelet Server.samplePods.exec
    (w := (World.initial (sampleReported none) : World Nat)) rfl
    (.request r 0 [Api.fromSecs 3] 0 : Spawns {} _ _) 3
    fun _ _ _ _ => served_samplePods _ _
  exact ⟨tr, hrun⟩

def SucceedsWithPod (r : Api.Request) (w : Api.Wait) : Prop :=
  r.wait = some w ∧ ∃ tr v run,
    Run (FreshStep {} "pod-1") (World.initial (sampleReported none)) tr v ∧
      v.progs (.api 0) = some (.ret (.answered (.ok run))) ∧ Api.Succeeded w run ∧
      PodStored r.name "pod-1" v.state

/-- A stop whose first poll reads the desired state it has just set, and a restart whose first poll
reads the status of the pod it has just deleted. -/
theorem success_with_pod :
    SucceedsWithPod (.stop "a") .stopped ∧ SucceedsWithPod (.restart "a") .ready := by
  constructor
  · obtain ⟨tr, hrun⟩ := run_answered (.stop "a")
    refine ⟨rfl, tr, _, _, hrun, rfl, ⟨⟨_, List.mem_cons_self, rfl⟩, ?_⟩, _, rfl, rfl⟩
    intro e he
    obtain rfl := List.mem_singleton.mp he
    decide
  · obtain ⟨tr, hrun⟩ := run_answered (.restart "a")
    refine ⟨rfl, tr, _, _, hrun, rfl, ⟨⟨_, List.mem_cons_self, rfl⟩, ?_⟩, _, rfl, rfl⟩
    intro e he
    obtain rfl := List.mem_singleton.mp he
    decide

/-- The Agent while its pod is terminating, and after the pod has gone. -/
def sampleStopping : Cluster := sampleReported (some "2026-01-01T00:00:00Z")

def sampleGone : Cluster := sampleStopping.set .pod "agent-a" none

/-- A stop, made before and polled after the pod has gone. -/
def worldStoppedGone : World Nat :=
  (World.initial sampleGone).advanced Server.samplePods.exec (.api 0)
    (requestTask (.stop "a") 0 [Api.fromSecs 3]) 3

theorem success_implies_gone_finished :
    PodStored "a" "pod-1" sampleStopping ∧ ¬ PodStored "a" "pod-1" worldStoppedGone.state := by
  refine ⟨⟨_, rfl, rfl⟩, ?_⟩
  have hfinish : FreshStep {} "pod-1"
      ((World.initial sampleStopping).setProg (.api 0)
        (some (requestTask (.stop "a") 0 [Api.fromSecs 3]))) .env
      ((World.initial sampleGone).setProg (.api 0)
        (some (requestTask (.stop "a") 0 [Api.fromSecs 3]))) := .env (.finish rfl rfl)
  obtain ⟨tr, hrun, hcalls⟩ := Pool.run_after (Spawns {}) Kubelet Server.samplePods.exec
    (i := .api 0) 3 (requestTask (.stop "a") 0 [Api.fromSecs 3])
    (World.initial sampleGone : World Nat) fun _ _ _ _ => served_samplePods _ _
  have hnopod : ∀ m < 3, (((requestTask (.stop "a") 0 [Api.fromSecs 3]).after
      Server.samplePods.exec m sampleGone).2.objs .pod "agent-a").isNone := by decide
  refine success_implies_gone (r := .stop "a") (n := 0) rfl (World.initial_tasksIn _ _)
    (.spawn rfl (.request (.stop "a") 0 [Api.fromSecs 3] 0)) ((Run.single hfinish).trans hrun)
    ?_ ?_ rfl ?_
  · intro e he a hexit
    rcases List.mem_append.mp he with he | he
    · obtain rfl := List.mem_singleton.mp he
      cases hexit
    · obtain ⟨m, -, -, c, r, -, hcall⟩ := hcalls e he
      rw [hcall] at hexit
      cases hexit
  · intro e he c r clock polls hlabel _ _ hstored
    rcases List.mem_append.mp he with he | he
    · obtain rfl := List.mem_singleton.mp he
      cases hlabel
    · obtain ⟨m, hm, hstate, -⟩ := hcalls e he
      obtain ⟨p, hp, -⟩ := hstored
      have hnone : e.1.state.objs .pod "agent-a" = none := by
        rw [hstate]
        exact Option.isNone_iff_eq_none.mp (hnopod m hm)
      cases hnone.symm.trans hp
  · refine ⟨⟨_, List.mem_cons_self, rfl⟩, fun e he => ?_⟩
    obtain rfl := List.mem_singleton.mp he
    decide

end Sample

end System
end AgentHosting
