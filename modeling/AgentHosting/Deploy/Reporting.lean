import AgentHosting.Api.Waiting
import AgentHosting.Deploy.Rbac

/-!
# AgentHosting.Deploy.Reporting

What the roles of `kubernetes/rbac` leave of status reporting. The role of the operator has
`agents` and not `agents/status`, so its status patch is refused, and with it the reconcile run
ends.

* `Unreported`        — no Agent has a status.
* `requestTask_given` — a stream that is only shown Agents without a status does not succeed with
  `ready`.
* `never_ready`       — in every run of the two programs under these roles no Agent ever gets a
  status, every reconcile run fails, no create, start or restart succeeds, and no restart deletes a
  pod.
-/

namespace AgentHosting
namespace Deploy

open Kube Prog Api
open AgentHosting.System

/-! ## Answers without a status -/

def Unreported (s : Cluster) : Prop := ∀ n o, s.agents n = some o → o.status = none

/-- The answer shows no status. -/
def Statusless : (c : Call) → Answer c → Prop
  | .getAgent _, .ok (some o) => o.status = none
  | _, _ => True

/-- What a poll is told of the Agent has no status. -/
def Blank (answer : Except KubeError (Option Api.Agent)) : Prop :=
  ∀ agent, answer = .ok (some agent) → agent.status = none

theorem statusless_failure (c : Call) (e : KubeError) : Statusless c (c.failure e) := by
  cases c <;> trivial

theorem blank_decodeAnswer {n : String} {r : Answer (.getAgent n)}
    (h : Statusless (.getAgent n) r) : Blank (decodeAnswer r) := by
  intro agent hanswer
  rcases r with e | _ | o
  · cases hanswer
  · cases hanswer
  · cases hdecoded : decodeAgent o with
    | error e =>
      simp only [decodeAnswer, hdecoded] at hanswer
      cases hanswer
    | ok agent' =>
      simp only [decodeAnswer, hdecoded] at hanswer
      obtain rfl := Option.some.inj (Except.ok.inj hanswer)
      have hstatus := (decodeAgent_ok.mp hdecoded).2.2
      rw [show o.status = none from h] at hstatus
      exact (Option.some.inj hstatus).symm

theorem not_running_of_blank {p : Poll} (h : Blank p.answer) : ¬ p.Hits "running" := by
  rintro ⟨agent, hanswer, hstatus⟩
  rw [deriveStatus, h agent hanswer, deriveStatusFromSpecAndStatus] at hstatus
  split at hstatus <;> exact absurd hstatus (by decide)

/-! ## Streams -/

/-- Readiness is announced, and no error. -/
def Ready (run : StreamRun) : Prop :=
  (∃ e ∈ run.events, e.name = "ready") ∧ ∀ e ∈ run.events, e.name ≠ "error"

/-- Polls without a status do not make the stream ready. -/
def NeverReady (stream : Stream) : Prop :=
  ∀ start polls, (∀ p ∈ polls, Blank p.answer) → ¬ Ready (stream start polls)

theorem pollLoop_names {target : String} {deadline : Instant} (polls : List Poll) :
    ∀ e ∈ (pollLoop target deadline polls).events, e.name = "status" ∨ e.name = "error" := by
  induction polls with
  | nil => exact fun e he => absurd he List.not_mem_nil
  | cons p polls ih =>
    rw [pollLoop]
    split
    · intro e he
      rw [List.mem_singleton.mp he]
      exact .inr rfl
    · split
      · split
        · exact fun e he => absurd he List.not_mem_nil
        · intro e he
          rcases List.mem_cons.mp he with rfl | he
          · exact .inl rfl
          · exact ih e he
      · split
        · exact fun e he => absurd he List.not_mem_nil
        · exact ih
      · intro e he
        rw [List.mem_singleton.mp he]
        exact .inr rfl

theorem deletionLoop_names {name : String} {deadline : Instant} (polls : List Poll) :
    ∀ e ∈ (deletionLoop name deadline polls).events, e.name ≠ "ready" := by
  induction polls with
  | nil => exact fun e he => absurd he List.not_mem_nil
  | cons p polls ih =>
    rw [deletionLoop]
    split
    · intro e he
      rw [List.mem_singleton.mp he]
      decide
    · split
      · intro e he
        rw [List.mem_singleton.mp he]
        exact (by decide : "deleted" ≠ "ready")
      · intro e he
        rcases List.mem_cons.mp he with rfl | he
        · decide
        · exact ih e he
      · exact ih

theorem neverReady_of_names {stream : Stream}
    (h : ∀ start polls, ∀ e ∈ (stream start polls).events, e.name ≠ "ready") : NeverReady stream :=
  fun start polls _ ⟨⟨e, he, hname⟩, _⟩ => h start polls e he hname

theorem neverReady_running (before : List SseEvent)
    (hbefore : ∀ e ∈ before, e.name ≠ "ready" ∧ e.name ≠ "error") (name : String) :
    NeverReady ((Wait.running before hbefore).stream name) := by
  intro start polls hblank hready
  have hmisses : ∀ p ∈ polls, ¬ p.Hits "running" := fun p hp => not_running_of_blank (hblank p hp)
  have hundisturbed :
      Undisturbed "running" ((Wait.running before hbefore).deadline start) polls := by
    by_contra hdisturbed
    obtain ⟨l, e, l', heq, herror, -⟩ :=
      success_after_error (w := .running before hbefore) name hdisturbed
    exact hready.2 e (by rw [heq]; simp) herror
  obtain ⟨-, p, hp, hhits⟩ :=
    (truthful_of_undisturbed (w := .running before hbefore) name hundisturbed).success hready.1
  exact hmisses p (List.mem_of_getElem? hp) hhits

theorem neverReady_stopped (name : String) : NeverReady (stopInstanceStream name) := by
  refine neverReady_of_names fun start polls e he => ?_
  rw [stopInstanceStream, pollThenReport, StreamRun.around] at he
  rcases List.mem_append.mp he with he | he
  · rcases pollLoop_names polls e he with hname | hname
    · rw [hname]
      decide
    · rw [hname]
      decide
  · revert he
    split
    · intro he
      rw [List.mem_singleton.mp he]
      exact (by decide : "stopped" ≠ "ready")
    · exact fun he => absurd he List.not_mem_nil

theorem neverReady_error (message : String) : NeverReady (errorStream message) := by
  refine neverReady_of_names fun start polls e he => ?_
  rw [List.mem_singleton.mp he]
  exact (by decide : "error" ≠ "ready")

/-- Every stream of a request. -/
theorem handler_neverReady (r : Api.Request) :
    r.handler.Returns fun a => ∀ stream, a = .ok stream → NeverReady stream := by
  cases r with
  | create uuid req =>
    refine (handler_stream (r := .create uuid req) rfl).mono fun a h stream ha => ?_
    rw [h stream ha]
    exact neverReady_running _ _ _
  | start name =>
    refine (handler_stream (r := .start name) rfl).mono fun a h stream ha => ?_
    rw [h stream ha]
    exact neverReady_running _ _ _
  | stop name =>
    refine (handler_stream (r := .stop name) rfl).mono fun a h stream ha => ?_
    rw [h stream ha]
    exact neverReady_stopped name
  | restart name =>
    refine (handler_stream (r := .restart name) rfl).mono fun a h stream ha => ?_
    rw [h stream ha]
    exact neverReady_running _ _ _
  | delete name =>
    have hstream : (deleteInstance name).Returns NeverReady := by
      refine Returns.bind (returns_of_forall (fun answer => ?_) (getOptAgent name))
      rcases answer with e | _ | agent
      · exact neverReady_error _
      · exact neverReady_error _
      · refine Returns.bind (returns_of_forall (fun deleted => ?_) (request (.deleteAgent name)))
        rcases deleted with e | ⟨⟩
        · exact neverReady_error _
        · exact neverReady_of_names fun start polls => deletionLoop_names polls
    exact Returns.bind (hstream.mono fun stream h _ hok => Except.ok.inj hok ▸ h)

/-! ## Tasks -/

/-- What a task under the roles ends with. -/
def Unready : System.Outcome → Prop
  | .reconciled r => ∃ e, r = .error e
  | .answered (.ok run) => ¬ Ready run
  | .answered (.error _) => True

theorem watch_given {stream : Stream} (h : NeverReady stream) (name : String) (start : Instant)
    (clock : List Instant) (polls : List Poll) (hpolls : ∀ p ∈ polls, Blank p.answer) :
    (watch stream name start clock polls).ReturnsGiven Statusless fun run => ¬ Ready run := by
  induction clock generalizing polls with
  | nil => exact h start polls hpolls
  | cons now clock ih =>
    rw [watch]
    split
    · exact h start polls hpolls
    · intro r hr
      refine ih _ fun p hp => ?_
      rcases List.mem_append.mp hp with hp | hp
      · exact hpolls p hp
      · rw [List.mem_singleton.mp hp]
        exact blank_decodeAnswer hr

theorem requestTask_given (r : Api.Request) (start : Instant) (clock : List Instant) :
    (requestTask r start clock).ReturnsGiven Statusless Unready := by
  refine ReturnsGiven.bind ((handler_neverReady r).given.mono fun a hstream => ?_)
  cases a with
  | error e => trivial
  | ok stream =>
    refine ReturnsGiven.bind ?_
    have hnone : ∀ p ∈ ([] : List Poll), Blank p.answer := fun p hp => absurd hp List.not_mem_nil
    exact (watch_given (hstream stream rfl) r.name start clock [] hnone).mono fun run hrun => hrun

/-- The status patch is refused, and with it the update. -/
theorem updateStatus_fails (agent : Operator.Agent) :
    (under agentOperatorRole (Operator.updateStatus agent).run).Returns
      fun r => ∃ e, r = .error e := by
  have hget : ∀ k n, permits agentOperatorRole (.getOpt k n) = true := fun k n => by cases k <;> rfl
  have hpatch : ∀ n patch, permits agentOperatorRole (.patchAgentStatus n patch) = false :=
    fun _ _ => rfl
  have hreport : ∀ n (k : Answer (.getOpt .service n) → Json) (name : String),
      (under agentOperatorRole (.call (.getOpt .service n) fun svc =>
        .call (.patchAgentStatus name (k svc)) .ret)).Returns fun r => ∃ e, r = .error e := by
    intro n k name
    rw [under, gated_call (hget .service n)]
    intro svc
    dsimp only
    rw [gated_refused (hpatch name (k svc))]
    exact ⟨forbidden, rfl⟩
  rw [Operator.updateStatus_run]
  split
  · exact hreport _ _ _
  · rw [under, gated_call (hget .pod _)]
    intro pod
    rcases pod with e | pod
    · exact ⟨e, rfl⟩
    · exact hreport _ _ _

/-- Whatever a reconcile run has done before, it ends in an error. -/
theorem reconcileTask_fails (ctx : Operator.Context) (agent : Operator.Agent) :
    (under agentOperatorRole (reconcileTask ctx agent)).Returns Unready := by
  have herror : ∀ e : KubeError, ∃ e',
      (Except.error e : Except KubeError Operator.Action) = .error e' := fun e => ⟨e, rfl⟩
  have hfails : (under agentOperatorRole (Operator.reconcile ctx agent).run).Returns
      fun r => ∃ e, r = .error e := by
    rw [Operator.reconcile_run, under, gated_andThen]
    refine returns_andThen _ herror fun _ => ?_
    rw [gated_andThen]
    refine returns_andThen _ herror fun _ => ?_
    rw [gated_andThen]
    refine returns_andThen _ herror fun _ => ?_
    rw [gated_andThen]
    refine returns_andThen _ herror fun _ => ?_
    rw [gated_andThen]
    refine Returns.bind ((updateStatus_fails agent).mono ?_)
    rintro _ ⟨e, rfl⟩
    exact herror e
  rw [reconcileTask, under, gated_bind]
  exact Returns.bind (hfails.mono fun r hr => hr)

/-! ## The run -/

/-- A create sends an Agent without a status. -/
def StatusFree : Call → Prop
  | .createAgent o => o.status = none
  | _ => True

theorem reconcileTask_statusFree (ctx : Operator.Context) (agent : Operator.Agent) :
    (reconcileTask ctx agent).AllCalls StatusFree := by
  refine AllCalls.bind ((Operator.reconcile_calls ctx agent).mono fun c hc => ?_) fun _ => trivial
  cases hc <;> trivial

theorem request_statusFree (r : Api.Request) : r.handler.AllCalls StatusFree := by
  cases r with
  | create uuid req => exact createInstance_calls trivial rfl
  | start name => exact patchState_calls _ trivial trivial
  | stop name => exact patchState_calls _ trivial trivial
  | restart name => exact restartInstance_calls trivial trivial
  | delete name => exact (deleteInstance_calls trivial trivial).bind fun _ => trivial

/-- The tasks as Kubernetes lets them run under `kubernetes/rbac`. -/
def SpawnsRbac (ctx : Operator.Context) (i : TaskId Nat) (p : Prog Call Answer System.Outcome) :
    Prop :=
  ∃ q, Spawns ctx i q ∧ p = under (rbac.role i) q

/-- Any call may fail, with or without its effect; a new Agent is stored without a status if it is
sent without one. -/
def ServedBlank (s : Cluster) (c : Call) (r : Answer c) (s' : Cluster) : Prop :=
  ∃ S : Server, (∀ o, o.status = none → (S.storedAgent o).status = none) ∧ S.Faulty s c r s'

/-- Whatever else happens, but that nobody else writes the status of an Agent. -/
def Unreporting (s s' : Cluster) : Prop := Unreported s → Unreported s'

abbrev RbacStep (ctx : Operator.Context) : World Nat → Label Nat → World Nat → Prop :=
  Pool.Step (SpawnsRbac ctx) ServedBlank Unreporting

def RbacCall (i : TaskId Nat) (c : Call) : Prop := StatusFree c ∧ permits (rbac.role i) c = true

theorem spawns_rbac {ctx : Operator.Context} {i : TaskId Nat} {p : Prog Call Answer System.Outcome}
    (h : SpawnsRbac ctx i p) : p.AllCalls (RbacCall i) ∧ p.ReturnsGiven Statusless Unready := by
  obtain ⟨q, hq, rfl⟩ := h
  cases hq with
  | reconcile agent slot =>
    exact ⟨gated_allCalls (reconcileTask_statusFree ctx agent),
      (reconcileTask_fails ctx agent).given⟩
  | request r start clock n =>
    refine ⟨gated_allCalls (requestTask_calls trivial (request_statusFree r) start clock), ?_⟩
    exact (requestTask_given r start clock).gated fun c => statusless_failure c forbidden

theorem unreported_setAgent {s : Cluster} (h : Unreported s) {n : String} {o : Option AgentObject}
    (ho : ∀ a, o = some a → a.status = none) : Unreported (s.setAgent n o) := by
  intro m a ha
  by_cases hm : m = n
  · subst hm
    rw [Cluster.setAgent_same] at ha
    exact ho a ha
  · rw [Cluster.setAgent_other _ hm] at ha
    exact h m a ha

theorem unreported_exec {S : Server}
    (hstored : ∀ o, o.status = none → (S.storedAgent o).status = none) {i : TaskId Nat} {c : Call}
    {s : Cluster} (h : Unreported s) (hc : RbacCall i c) : Unreported (S.exec s c).2 := by
  have hremoved : ∀ n, Unreported (s.setAgent n none) := by
    intro n
    refine unreported_setAgent h fun a ha => ?_
    cases ha
  cases c with
  | getOpt k n => exact h
  | create k o =>
    have hagents : (S.exec s (.create k o)).2.agents = s.agents :=
      Server.agents_of_create (r := (S.exec s (.create k o)).1) rfl
    exact fun m a ha => h m a (hagents ▸ ha)
  | delete k n =>
    have hagents : (S.exec s (.delete k n)).2.agents = s.agents :=
      Server.agents_of_delete (r := (S.exec s (.delete k n)).1) rfl
    exact fun m a ha => h m a (hagents ▸ ha)
  | getAgent n => exact h
  | createAgent o =>
    simp only [Server.exec]
    split
    · exact h
    · refine unreported_setAgent h fun a ha => ?_
      obtain rfl := Option.some.inj ha
      exact hstored o hc.1
  | deleteAgent n =>
    simp only [Server.exec]
    split
    · exact hremoved n
    · exact h
  | patchAgent n patch =>
    simp only [Server.exec]
    split
    · next o ho =>
      refine unreported_setAgent h fun a ha => ?_
      obtain rfl := Option.some.inj ha
      exact h n o ho
    · exact h
  | patchAgentStatus n patch =>
    -- neither role has the status subresource
    have hrefused : permits (rbac.role i) (.patchAgentStatus n patch) = false := by
      cases i <;> rfl
    exact absurd (hrefused.symm.trans hc.2) Bool.false_ne_true
  | sleep secs => exact h

theorem unreported_call {i : TaskId Nat} {c : Call} {r : Answer c} {s s' : Cluster}
    (h : Unreported s) (hc : RbacCall i c) (hs : ServedBlank s c r s') : Unreported s' := by
  obtain ⟨S, hstored, hs⟩ := hs
  rcases hs.state with rfl | rfl
  · exact h
  · exact unreported_exec hstored h hc

theorem statusless_call {c : Call} {r : Answer c} {s s' : Cluster} (h : Unreported s)
    (hs : ServedBlank s c r s') : Statusless c r := by
  obtain ⟨S, -, hs⟩ := hs
  cases c with
  | getAgent n =>
    obtain ⟨-, rfl | ⟨e, rfl⟩⟩ := hs.getAgent
    · cases ho : s.agents n with
      | none => trivial
      | some o => exact h n o ho
    · trivial
  | _ => trivial

/-- What holds of the two programs and the cluster in every run under the roles. -/
structure Muted (w : World Nat) : Prop where
  unreported : Unreported w.state
  calls : w.TasksIn RbacCall
  returns : w.ProgsIn fun _ p => p.ReturnsGiven Statusless Unready

theorem muted_initial {s : Cluster} (h : Unreported s) : Muted (World.initial s) :=
  ⟨h, World.initial_tasksIn _ s, World.initial_progsIn _ s⟩

theorem muted_step {ctx : Operator.Context} {w w' : World Nat} {l : Label Nat} (h : Muted w)
    (hs : RbacStep ctx w l w') : Muted w' := by
  have hcalls : w'.TasksIn RbacCall :=
    Pool.tasks_step (A := RbacCall) (fun _ _ hp => (spawns_rbac hp).1) h.calls hs
  have hreturns := Pool.returns_step (B := fun _ => Unready) (fun _ _ hp => (spawns_rbac hp).2)
    (fun i c r hl => ?_) h.returns hs
  · refine ⟨?_, hcalls, hreturns⟩
    cases hs with
    | spawn _ _ => exact h.unreported
    | call hi hserve => exact unreported_call h.unreported (h.calls _ _ hi).1 hserve
    | exit _ => exact h.unreported
    | env he => exact he h.unreported
  · subst hl
    cases hs with
    | call _ hserve => exact statusless_call h.unreported hserve

/-- In every run of the two programs under the roles of `kubernetes/rbac`, from a cluster in which
no Agent has a status, and if nobody else writes one: no Agent ever has one; every reconcile run
ends in an error; no request is told `ready` without an error; and no request deletes a pod. -/
theorem never_ready {ctx : Operator.Context} {s : Cluster} {w : World Nat}
    {tr : List (World Nat × Label Nat)} (hs : Unreported s)
    (h : Run (RbacStep ctx) (World.initial s) tr w) :
    Unreported w.state ∧
    (∀ e ∈ tr, ∀ i out, e.2 = .exit i out → Unready out) ∧
    ∀ e ∈ tr, ∀ n name r, e.2 ≠ .call (.api n) (.delete .pod name) r := by
  have hstep : ∀ (v : World Nat) l v', Muted v → RbacStep ctx v l v' → Muted v' :=
    fun _ _ _ hv hs => muted_step hv hs
  have hmuted := h.invariant_at hstep (muted_initial hs)
  refine ⟨(h.invariant hstep (muted_initial hs)).unreported, fun e he i out hexit => ?_,
    fun e he n name r hcall => ?_⟩
  · obtain ⟨v, hv⟩ := h.step_of_mem e he
    rw [hexit] at hv
    cases hv with
    | exit hp => exact (hmuted e he).returns _ _ hp
  · obtain ⟨v, hv⟩ := h.step_of_mem e he
    rw [hcall] at hv
    cases hv with
    | call hp _ => exact absurd ((hmuted e he).calls _ _ hp).1.2 Bool.false_ne_true

/-- A reconcile run under the role makes the pod all the same. -/
theorem never_ready_reconciled : ∃ tr w,
    Run (RbacStep {}) (World.initial (Cluster.empty.setAgent "a" (some sampleAgent))) tr w ∧
      (w.state.objs .pod (Operator.podName "a")).isSome ∧ Unreported w.state := by
  have hempty : Unreported Cluster.empty := by
    intro n o h
    cases h
  have hs : Unreported (Cluster.empty.setAgent "a" (some sampleAgent)) := by
    refine unreported_setAgent hempty fun a ha => ?_
    obtain rfl := Option.some.inj ha
    rfl
  have hspawn : SpawnsRbac {} (.operator "a" 0)
      (under agentOperatorRole (reconcileTask {} (.sample "a" "uid-1" .running))) :=
    ⟨_, .reconcile (.sample "a" "uid-1" .running) 0, rfl⟩
  have hserves : ∀ s c, ServedBlank s c (Server.verbatim.exec s c).1 (Server.verbatim.exec s c).2 :=
    fun s c => ⟨.verbatim, fun o ho => ho, .served⟩
  obtain ⟨tr, hrun⟩ := Pool.run_whole Unreporting Server.verbatim.exec hserves
    (w := (World.initial (Cluster.empty.setAgent "a" (some sampleAgent)) : World Nat)) rfl hspawn
  exact ⟨tr, _, hrun, rfl, (never_ready hs hrun).1⟩

end Deploy
end AgentHosting
