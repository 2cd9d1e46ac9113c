import AgentHosting.Api.Handlers

/-!
# AgentHosting.Api.Waiting

The streams that wait for a status and then report success: what they report, against what their
polls were answered. The four handlers report success after the polling whichever way it ended.

* `Wait`                  — what a stream waits for, and how it reports.
* `pollLoop_undisturbed`, `pollLoop_disturbed` — the polling, by whether a failed poll or the
  deadline comes before the target status.
* `reports_truly_iff`     — the report is true exactly when neither does.
-/

namespace AgentHosting
namespace Api

open Kube Prog

/-! ## What a stream waits for -/

/-- Events before the polling, the status polled for, the event that reports it, the time given. -/
structure Wait where
  before : List SseEvent
  target : String
  report : String
  timeoutSecs : Nat
  target_ne : target ≠ "deleted"
  report_ne : report ≠ "status" ∧ report ≠ "error"
  before_ne : ∀ e ∈ before, e.name ≠ report ∧ e.name ≠ "error"

namespace Wait

def stream (w : Wait) (name : String) : Stream :=
  pollThenReport w.before w.target w.report w.timeoutSecs name

def deadline (w : Wait) (start : Instant) : Instant := start + fromSecs w.timeoutSecs

def running (before : List SseEvent) (h : ∀ e ∈ before, e.name ≠ "ready" ∧ e.name ≠ "error") :
    Wait where
  before := before
  target := "running"
  report := "ready"
  timeoutSecs := 600
  target_ne := by decide
  report_ne := by decide
  before_ne := h

def ready : Wait := .running [] fun _ h => nomatch h

def stopped : Wait where
  before := []
  target := "stopped"
  report := "stopped"
  timeoutSecs := 120
  target_ne := by decide
  report_ne := by decide
  before_ne := by simp

end Wait

/-- What the stream of a request waits for; the stream of a delete watches the Agent go instead. -/
def Request.wait : Request → Option Wait
  | .create uuid req => some (.running
      [sseEvent "created" (nameData (Request.create uuid req).name)] (by simp [sseEvent]))
  | .start _ | .restart _ => some .ready
  | .stop _ => some .stopped
  | .delete _ => none

/-- A handler answers no stream but the one of its request. -/
theorem handler_stream {r : Request} {w : Wait} (hw : r.wait = some w) :
    r.handler.Returns fun a => ∀ stream, a = .ok stream → stream = w.stream r.name := by
  have herror : ∀ e : AppError, ∀ stream : Stream, Except.error e = .ok stream →
      stream = w.stream r.name := fun e stream h => by cases h
  have hlast : ∀ {α : Type} (p : Prog Call Answer (Except AppError α)),
      (andThen p fun _ => .ret (.ok (w.stream r.name))).Returns
        fun a => ∀ stream, a = .ok stream → stream = w.stream r.name :=
    fun p => returns_andThen p herror fun _ stream h => (Except.ok.inj h).symm
  cases r with
  | create uuid req =>
    obtain rfl := Option.some.inj hw
    show (createInstance uuid req).run.Returns _
    unfold createInstance
    split
    · exact herror _
    · show Returns _ (ExceptT.run (_ >>= _))
      rw [exceptT_bind]
      refine returns_andThen _ herror fun agent => ?_
      cases agent with
      | some agent => exact herror _
      | none =>
        rw [exceptT_bind]
        exact hlast _
  | start name =>
    obtain rfl := Option.some.inj hw
    show (startInstance name).run.Returns _
    rw [startInstance, exceptT_bind]
    refine returns_andThen _ herror fun _ => ?_
    rw [exceptT_bind]
    exact hlast _
  | stop name =>
    obtain rfl := Option.some.inj hw
    show (stopInstance name).run.Returns _
    rw [stopInstance, exceptT_bind]
    refine returns_andThen _ herror fun _ => ?_
    rw [exceptT_bind]
    exact hlast _
  | restart name =>
    obtain rfl := Option.some.inj hw
    show (restartInstance name).run.Returns _
    rw [restartInstance, exceptT_bind]
    refine returns_andThen _ herror fun _ => ?_
    rw [exceptT_bind]
    exact hlast _
  | delete name => cases hw

/-! ## The polling -/

/-- The poll finds the target status. -/
def Poll.Hits (target : String) (p : Poll) : Prop :=
  ∃ agent, p.answer = .ok (some agent) ∧ deriveStatus agent = target

/-- The poll is made in time and not answered with an error. -/
def Poll.Sound (deadline : Instant) (p : Poll) : Prop :=
  p.now ≤ deadline ∧ ∀ e, p.answer ≠ .error e

/-- Every poll up to the first that finds the target status is sound. -/
def Undisturbed (target : String) (deadline : Instant) (polls : List Poll) : Prop :=
  ∀ (i : Nat) (p : Poll), polls[i]? = some p →
    (∀ (j : Nat) (q : Poll), j < i → polls[j]? = some q → ¬ q.Hits target) → p.Sound deadline

theorem undisturbed_cons {target : String} {deadline : Instant} {p : Poll} {polls : List Poll} :
    Undisturbed target deadline (p :: polls) ↔
      p.Sound deadline ∧ (¬ p.Hits target → Undisturbed target deadline polls) := by
  constructor
  · intro h
    refine ⟨h 0 p rfl fun j q hj => by omega, fun hp i q hq hbefore => ?_⟩
    refine h (i + 1) q (by simpa using hq) fun j q' hj hq' => ?_
    cases j with
    | zero =>
      obtain rfl : p = q' := by simpa using hq'
      exact hp
    | succ j => exact hbefore j q' (by omega) (by simpa using hq')
  · rintro ⟨hp, hrest⟩ i q hq hbefore
    cases i with
    | zero =>
      obtain rfl : p = q := by simpa using hq
      exact hp
    | succ i =>
      refine hrest (hbefore 0 p (by omega) rfl) i q (by simpa using hq) fun j q' hj hq' => ?_
      exact hbefore (j + 1) q' (by omega) (by simpa using hq')

def LastHits (target : String) (polls : List Poll) (calls : Nat) : Prop :=
  calls ≠ 0 ∧ ∃ p, polls[calls - 1]? = some p ∧ p.Hits target

theorem LastHits.cons {target : String} {polls : List Poll} {calls : Nat}
    (h : LastHits target polls calls) (p : Poll) : LastHits target (p :: polls) (calls + 1) := by
  obtain ⟨hcalls, q, hq, hhits⟩ := h
  obtain ⟨n, rfl⟩ := Nat.exists_eq_succ_of_ne_zero hcalls
  exact ⟨by omega, q, by simpa using hq, hhits⟩

section Polling

variable {target : String} {deadline : Instant}

theorem pollLoop_sound (htarget : target ≠ "deleted") {p : Poll} (hp : p.Sound deadline)
    (polls : List Poll) :
    (p.Hits target ∧ pollLoop target deadline (p :: polls) = ⟨[], 1, true⟩) ∨
      ¬ p.Hits target ∧
        ((∃ status, pollLoop target deadline (p :: polls) =
          (pollLoop target deadline polls).emit (sseEvent "status" status)) ∨
        pollLoop target deadline (p :: polls) = (pollLoop target deadline polls).quiet) := by
  obtain ⟨now, answer⟩ := p
  obtain ⟨hnow, hanswer⟩ := hp
  have hintime : ¬ now > deadline := by simpa using hnow
  rcases answer with e | _ | agent
  · exact (hanswer e rfl).elim
  · refine .inr ⟨?_, .inr ?_⟩
    · rintro ⟨agent, h, -⟩
      cases h
    · simp only [pollLoop, if_neg hintime, if_neg htarget]
  · by_cases hhits : deriveStatus agent = target
    · exact .inl ⟨⟨agent, rfl, hhits⟩, by simp only [pollLoop, if_neg hintime, if_pos hhits]⟩
    · refine .inr ⟨?_, .inl ⟨Json.object [("status", .str (deriveStatus agent))],
        by simp only [pollLoop, if_neg hintime, if_neg hhits]⟩⟩
      rintro ⟨agent', h, hstatus⟩
      cases h
      exact hhits hstatus

theorem pollLoop_unsound {p : Poll} (hp : ¬ p.Sound deadline) (polls : List Poll) :
    (pollLoop target deadline (p :: polls)).finished = true ∧
      ∃ e ∈ (pollLoop target deadline (p :: polls)).events, e.name = "error" := by
  obtain ⟨now, answer⟩ := p
  by_cases hnow : now > deadline
  · simp [pollLoop, if_pos hnow, sseError, sseEvent]
  · rcases answer with e | r
    · simp [pollLoop, if_neg hnow, sseError, sseEvent]
    · exact (hp ⟨by simpa using hnow, fun e h => by cases h⟩).elim

theorem pollLoop_undisturbed (htarget : target ≠ "deleted") {polls : List Poll}
    (h : Undisturbed target deadline polls) :
    (∀ e ∈ (pollLoop target deadline polls).events, e.name = "status") ∧
      ((pollLoop target deadline polls).finished = true →
        LastHits target polls (pollLoop target deadline polls).calls) := by
  induction polls with
  | nil => simp [pollLoop]
  | cons p polls ih =>
    obtain ⟨hp, hrest⟩ := undisturbed_cons.mp h
    rcases pollLoop_sound htarget hp polls with ⟨hhits, heq⟩ | ⟨hmiss, ⟨status, heq⟩ | heq⟩
    · rw [heq]
      exact ⟨by simp, fun _ => ⟨by simp, p, rfl, hhits⟩⟩
    · obtain ⟨hevents, hlast⟩ := ih (hrest hmiss)
      rw [heq]
      refine ⟨fun e he => ?_, fun hfinished => (hlast hfinished).cons p⟩
      rcases List.mem_cons.mp he with rfl | he
      · rfl
      · exact hevents e he
    · obtain ⟨hevents, hlast⟩ := ih (hrest hmiss)
      rw [heq]
      exact ⟨hevents, fun hfinished => (hlast hfinished).cons p⟩

theorem pollLoop_disturbed (htarget : target ≠ "deleted") {polls : List Poll}
    (h : ¬ Undisturbed target deadline polls) :
    (pollLoop target deadline polls).finished = true ∧
      ∃ e ∈ (pollLoop target deadline polls).events, e.name = "error" := by
  induction polls with
  | nil => exact (h fun i p hp => by simp at hp).elim
  | cons p polls ih =>
    by_cases hp : p.Sound deadline
    · rcases pollLoop_sound htarget hp polls with ⟨hhits, -⟩ | ⟨hmiss, heq⟩
      · exact (h (undisturbed_cons.mpr ⟨hp, fun hmiss => (hmiss hhits).elim⟩)).elim
      · obtain ⟨hfinished, e, he, hname⟩ := ih fun hrest =>
          h (undisturbed_cons.mpr ⟨hp, fun _ => hrest⟩)
        rcases heq with ⟨status, heq⟩ | heq
        · rw [heq]
          exact ⟨hfinished, e, List.mem_cons_of_mem _ he, hname⟩
        · rw [heq]
          exact ⟨hfinished, e, he, hname⟩
    · exact pollLoop_unsound hp polls

/-- A loop that goes on has not found the target status. -/
theorem pollLoop_unfinished (htarget : target ≠ "deleted") {polls : List Poll}
    (h : (pollLoop target deadline polls).finished = false) : ∀ p ∈ polls, ¬ p.Hits target := by
  induction polls with
  | nil => simp
  | cons p polls ih =>
    by_cases hp : p.Sound deadline
    · rcases pollLoop_sound htarget hp polls with ⟨-, heq⟩ | ⟨hmiss, heq⟩
      · rw [heq] at h
        cases h
      · have hrest : (pollLoop target deadline polls).finished = false := by
          rcases heq with ⟨status, heq⟩ | heq
          · rw [heq] at h
            exact h
          · rw [heq] at h
            exact h
        intro q hq
        rcases List.mem_cons.mp hq with rfl | hq
        · exact hmiss
        · exact ih hrest q hq
    · rw [(pollLoop_unsound hp polls).1] at h
      cases h

end Polling

/-! ## The report -/

def Wait.isOutcome (w : Wait) (e : SseEvent) : Bool := e.name = "error" ∨ e.name = w.report

/-- The stream tells the truth: success only after a last poll that found the target status, never
after an error, and one outcome in all once it has ended. -/
structure Truthful (w : Wait) (polls : List Poll) (run : StreamRun) : Prop where
  success : (∃ e ∈ run.events, e.name = w.report) → LastHits w.target polls run.calls
  afterError : ∀ l e l', run.events = l ++ e :: l' → e.name = "error" →
    ∀ e' ∈ l', e'.name ≠ w.report
  oneOutcome : run.finished = true → run.events.countP w.isOutcome = 1

section Report

variable {w : Wait} {start : Instant} {polls : List Poll}

theorem stream_events (w : Wait) (name : String) (start : Instant) (polls : List Poll) :
    (w.stream name start polls).events =
      w.before ++ (pollLoop w.target (w.deadline start) polls).events ++
        if (pollLoop w.target (w.deadline start) polls).finished then
          [sseEvent w.report (nameData name)] else [] := rfl

theorem stream_finished (w : Wait) (name : String) (start : Instant) (polls : List Poll) :
    (w.stream name start polls).finished =
      (pollLoop w.target (w.deadline start) polls).finished := rfl

theorem events_undisturbed (name : String) (h : Undisturbed w.target (w.deadline start) polls) :
    (∀ e ∈ (w.stream name start polls).events, e.name ≠ "error") ∧
      (w.stream name start polls).events.countP w.isOutcome =
        if (w.stream name start polls).finished then 1 else 0 := by
  obtain ⟨hstatus, -⟩ := pollLoop_undisturbed w.target_ne h
  have hbefore : ∀ e ∈ w.before, w.isOutcome e = false := fun e he => by
    simp [Wait.isOutcome, w.before_ne e he]
  have hloop : ∀ e ∈ (pollLoop w.target (w.deadline start) polls).events,
      w.isOutcome e = false := fun e he => by
    simp [Wait.isOutcome, hstatus e he, w.report_ne.1.symm]
  have hcount : ∀ l : List SseEvent, (∀ e ∈ l, w.isOutcome e = false) →
      l.countP w.isOutcome = 0 := fun l hl =>
    List.countP_eq_zero.mpr fun e he => by simp [hl e he]
  rw [stream_events, stream_finished]
  constructor
  · intro e he
    rcases List.mem_append.mp he with he | he
    · rcases List.mem_append.mp he with he | he
      · exact (w.before_ne e he).2
      · rw [hstatus e he]
        decide
    · revert he
      split
      · intro he
        obtain rfl := List.mem_singleton.mp he
        exact w.report_ne.2
      · intro he
        cases he
  · rw [List.countP_append, List.countP_append, hcount _ hbefore, hcount _ hloop]
    split <;> simp [Wait.isOutcome, sseEvent]

theorem truthful_of_undisturbed (name : String)
    (h : Undisturbed w.target (w.deadline start) polls) :
    Truthful w polls (w.stream name start polls) := by
  obtain ⟨hnoerror, hcount⟩ := events_undisturbed name h
  refine ⟨fun ⟨e, he, hname⟩ => ?_, fun l e l' heq herror => ?_, fun hfinished => ?_⟩
  · have hpos : 0 < (w.stream name start polls).events.countP w.isOutcome :=
      List.countP_pos_iff.mpr ⟨e, he, by simp [Wait.isOutcome, hname]⟩
    have hfinished : (w.stream name start polls).finished = true := by
      by_contra hnot
      rw [hcount, if_neg hnot] at hpos
      omega
    exact (pollLoop_undisturbed w.target_ne h).2 hfinished
  · exact (hnoerror e (by rw [heq]; simp) herror).elim
  · rw [hcount, if_pos hfinished]

/-- A disturbed wait reports an error, and then success. -/
theorem success_after_error (name : String) (h : ¬ Undisturbed w.target (w.deadline start) polls) :
    ∃ l e l', (w.stream name start polls).events = l ++ e :: l' ∧ e.name = "error" ∧
      ∃ e' ∈ l', e'.name = w.report := by
  obtain ⟨hfinished, e, he, herror⟩ := pollLoop_disturbed w.target_ne h
  obtain ⟨l, l', hl⟩ := List.append_of_mem he
  refine ⟨w.before ++ l, e, l' ++ [sseEvent w.report (nameData name)], ?_, herror,
    sseEvent w.report (nameData name), by simp, rfl⟩
  rw [stream_events, hl, if_pos hfinished]
  simp

/-- Success is reported, and no error. -/
def Succeeded (w : Wait) (run : StreamRun) : Prop :=
  (∃ e ∈ run.events, e.name = w.report) ∧ ∀ e ∈ run.events, e.name ≠ "error"

theorem not_succeeded_of_unfinished {name : String}
    (h : (w.stream name start polls).finished = false) :
    ¬ Succeeded w (w.stream name start polls) := by
  rintro ⟨⟨e, he, hname⟩, -⟩
  by_cases hundisturbed : Undisturbed w.target (w.deadline start) polls
  · obtain ⟨-, hcount⟩ := events_undisturbed name hundisturbed
    have hpos : 0 < (w.stream name start polls).events.countP w.isOutcome :=
      List.countP_pos_iff.mpr ⟨e, he, by simp [Wait.isOutcome, hname]⟩
    rw [hcount, h] at hpos
    simp at hpos
  · have hfinished := (pollLoop_disturbed w.target_ne hundisturbed).1
    rw [stream_finished, hfinished] at h
    cases h

/-- The poll that ends a stream with success has found the target status. -/
theorem hits_of_succeeded {name : String} (h : (w.stream name start polls).finished = false)
    {p : Poll} (hs : Succeeded w (w.stream name start (polls ++ [p]))) : p.Hits w.target := by
  obtain ⟨hsuccess, hnoerror⟩ := hs
  have hundisturbed : Undisturbed w.target (w.deadline start) (polls ++ [p]) := by
    by_contra hdisturbed
    obtain ⟨l, e, l', heq, herror, -⟩ := success_after_error name hdisturbed
    exact hnoerror e (by rw [heq]; simp) herror
  obtain ⟨-, q, hq, hhits⟩ := (truthful_of_undisturbed name hundisturbed).success hsuccess
  rcases List.mem_append.mp (List.mem_of_getElem? hq) with hmem | hmem
  · exact (pollLoop_unfinished w.target_ne h q hmem hhits).elim
  · rw [← List.mem_singleton.mp hmem]
    exact hhits

end Report

/-- Whatever the stream of a handler is answered and whatever its clock reads: it tells the truth
exactly when every poll up to the first that finds the target status is in time and is not answered
with an error. -/
theorem reports_truly_iff {r : Request} {w : Wait} (hw : r.wait = some w)
    {serves : Cluster → (c : Call) → Answer c → Cluster → Prop} {env : Cluster → Cluster → Prop}
    {s s' : Cluster} {tr : List (Event Cluster Call Answer)} {stream : Stream}
    (h : Exec serves env r.handler s tr (.ok stream) s') (start : Instant) (polls : List Poll) :
    Truthful w polls (stream start polls) ↔ Undisturbed w.target (w.deadline start) polls := by
  obtain rfl := exec_returns h (handler_stream hw) stream rfl
  constructor
  · intro htrue
    by_contra hdisturbed
    obtain ⟨l, e, l', heq, herror, e', he', hreport⟩ := success_after_error r.name hdisturbed
    exact htrue.afterError l e l' heq herror e' he' hreport
  · exact truthful_of_undisturbed r.name

/-- A create request; a poll that finds no Agent yet, and one that finds it running. -/
def Request.sample : Request := .create "" { image := "agent:v1", name := some "a" }

def Poll.sampleAbsent : Poll := ⟨fromSecs 3, .ok none⟩

def Poll.sampleRunning : Poll :=
  ⟨fromSecs 6, .ok (some ⟨{ name := some "a" }, requestedSpec { image := "agent:v1" },
    some { phase := some "Running" }⟩)⟩

theorem reports_truly_iff_created :
    ∃ w stream, Request.sample.wait = some w ∧
      (run Server.verbatim.exec Request.sample.handler Cluster.empty).1 = .ok stream ∧
      (stream 0 [.sampleAbsent, .sampleRunning]).finished = true ∧
      Truthful w [.sampleAbsent, .sampleRunning] (stream 0 [.sampleAbsent, .sampleRunning]) := by
  have hrun : Exec (Answers Server.verbatim.exec) Alone Request.sample.handler
      Cluster.empty _ _ _ :=
    run_exec ..
  refine ⟨_, _, rfl, rfl, rfl, (reports_truly_iff rfl hrun 0 _).mpr ?_⟩
  rw [undisturbed_cons, undisturbed_cons]
  refine ⟨⟨by decide, fun e h => by cases h⟩, fun _ => ⟨⟨by decide, fun e h => by cases h⟩, ?_⟩⟩
  exact fun hmissed => (hmissed ⟨_, rfl, rfl⟩).elim

/-- A create whose second poll comes after the deadline: the error, and then the success. -/
theorem ready_after_timeout :
    ¬ ∀ (r : Request) (w : Wait) (s : Cluster) (stream : Stream), r.wait = some w →
      (run Server.verbatim.exec r.handler s).1 = .ok stream → ∀ start polls,
        Truthful w polls (stream start polls) := by
  intro h
  have htrue := h .sample _ Cluster.empty _ rfl rfl 0 [.sampleAbsent, ⟨fromSecs 601, .ok none⟩]
  have hevents : ∃ e, (createInstanceStream "a" 0
      [.sampleAbsent, ⟨fromSecs 601, .ok none⟩]).events =
        [sseEvent "created" (nameData "a")] ++ e :: [sseEvent "ready" (nameData "a")] ∧
      e.name = "error" := ⟨_, rfl, rfl⟩
  obtain ⟨e, heq, herror⟩ := hevents
  exact htrue.afterError _ e _ heq herror _ List.mem_cons_self rfl

end Api
end AgentHosting
