import AgentHosting.Lib.Deadline
import AgentHosting.Api.Waiting

/-!
# AgentHosting.Api.Streams

The two polling loops of the API server as loops with a deadline: how often they ask, when they end,
and in what order their events come.

* `pollLoop_eq`, `deletionLoop_eq` — the two loops are instances of `Deadline.Loop`.
* `polling_law`                    — the law of `poll_status_stream`.
* `deletion_law`                   — the law of the stream of `delete_instance`.
-/

namespace AgentHosting
namespace Api

open Kube Prog Deadline

def StreamRun.ofPolled (r : Deadline.Polled SseEvent) : StreamRun := ⟨r.events, r.calls, r.finished⟩

def statusEvent (status : String) : SseEvent :=
  sseEvent "status" (Json.object [("status", .str status)])

/-- Clock readings of a stream that sleeps `secs` seconds between two polls. -/
def PacedPolls (secs : Nat) (start : Instant) (polls : List Poll) : Prop :=
  Paced (fromSecs secs) start (polls.map Poll.now)

theorem fromSecs_pos {secs : Nat} (h : 0 < secs) : 0 < fromSecs secs :=
  Nat.mul_pos h (by decide)

/-! ## Waiting for a status -/

def pollingLoop (target : String) : Loop Poll SseEvent where
  now := Poll.now
  emits p :=
    match p.answer with
    | .ok (some agent) =>
      if deriveStatus agent = target then [] else [statusEvent (deriveStatus agent)]
    | .ok none => []
    | .error e => [sseError ("polling error: " ++ e.text)]
  stops p :=
    match p.answer with
    | .ok (some agent) => deriveStatus agent = target
    | .ok none => target = "deleted"
    | .error _ => true
  late := [sseError "timeout waiting for status transition"]

theorem pollLoop_eq (target : String) (deadline : Instant) (polls : List Poll) :
    pollLoop target deadline polls = .ofPolled ((pollingLoop target).run deadline polls) := by
  induction polls with
  | nil => rfl
  | cons p polls ih =>
    obtain ⟨now, answer⟩ := p
    by_cases hlate : now > deadline
    · simp [pollLoop, Loop.run, pollingLoop, StreamRun.ofPolled, hlate]
    · rcases answer with e | _ | agent
      · simp [pollLoop, Loop.run, pollingLoop, StreamRun.ofPolled, hlate]
      · by_cases htarget : target = "deleted"
        · simp [pollLoop, Loop.run, pollingLoop, StreamRun.ofPolled, hlate, htarget]
        · simp [pollLoop, Loop.run, pollingLoop, StreamRun.ofPolled, StreamRun.quiet, hlate,
            htarget, ih]
      · by_cases hhits : deriveStatus agent = target
        · simp [pollLoop, Loop.run, pollingLoop, StreamRun.ofPolled, hlate, hhits]
        · simp [pollLoop, Loop.run, pollingLoop, StreamRun.ofPolled, StreamRun.emit, statusEvent,
            hlate, hhits, ih]

/-- What a stream that waits for `target` promises, at every stage: how often it asks and that it
ends, the order of its events, and what an end without an error means. -/
structure PollingLaw (target : String) (timeout : Nat) (polls : List Poll) (run : StreamRun) :
    Prop where
  bounded : run.calls ≤ timeout / fromSecs 3 + 1
  ends : timeout / fromSecs 3 + 1 < polls.length → run.finished = true
  ordered : ∃ statuses errors, run.events = statuses ++ errors ∧
    (∀ e ∈ statuses, ∃ status, status ≠ target ∧ e = statusEvent status) ∧
    errors.length ≤ 1 ∧ ∀ e ∈ errors, e.name = "error" ∧ run.finished = true
  silent : run.finished = true →
    ((∀ e ∈ run.events, e.name ≠ "error") ↔ LastHits target polls run.calls)

section Polling

variable {target : String} {deadline : Instant}

/-- A poll that lets the polling go on, in what it emits and what it was answered. -/
theorem goesOn_emits {p : Poll} (h : (pollingLoop target).GoesOn deadline p) :
    ¬ p.Hits target ∧
      ∀ e ∈ (pollingLoop target).emits p, ∃ status, status ≠ target ∧ e = statusEvent status := by
  obtain ⟨now, answer⟩ := p
  obtain ⟨-, hstops⟩ := h
  rcases answer with e | _ | agent
  · simp [pollingLoop] at hstops
  · exact ⟨by simp [Poll.Hits], by simp [pollingLoop]⟩
  · have hmiss : deriveStatus agent ≠ target := by simpa [pollingLoop] using hstops
    refine ⟨?_, fun e he => ⟨deriveStatus agent, hmiss, by simpa [pollingLoop, hmiss] using he⟩⟩
    rintro ⟨agent', hanswer, hhits⟩
    cases hanswer
    exact hmiss hhits

/-- A poll that stops the polling finds the status or is answered with an error. -/
theorem stops_emits (htarget : target ≠ "deleted") {p : Poll}
    (h : (pollingLoop target).stops p = true) :
    (p.Hits target ∧ (pollingLoop target).emits p = []) ∨
      ¬ p.Hits target ∧ ∃ message, (pollingLoop target).emits p = [sseError message] := by
  obtain ⟨now, answer⟩ := p
  rcases answer with e | _ | agent
  · exact .inr ⟨by simp [Poll.Hits], _, rfl⟩
  · simp [pollingLoop, htarget] at h
  · have hhits : deriveStatus agent = target := by simpa [pollingLoop] using h
    exact .inl ⟨⟨agent, rfl, hhits⟩, by simp [pollingLoop, hhits]⟩

theorem statuses_of_goesOn {polls : List Poll}
    (h : ∀ p ∈ polls, (pollingLoop target).GoesOn deadline p) :
    ∀ e ∈ polls.flatMap (pollingLoop target).emits,
      ∃ status, status ≠ target ∧ e = statusEvent status := by
  intro e he
  obtain ⟨p, hp, he⟩ := List.mem_flatMap.mp he
  exact (goesOn_emits (h p hp)).2 e he

theorem statuses_ne_error {events : List SseEvent}
    (h : ∀ e ∈ events, ∃ status, status ≠ target ∧ e = statusEvent status) :
    ∀ e ∈ events, e.name ≠ "error" := by
  intro e he
  obtain ⟨status, -, rfl⟩ := h e he
  show "status" ≠ "error"
  decide

/-- The last of some polls that let the polling go on has not found the status. -/
theorem not_lastHits {polls rest : List Poll}
    (h : ∀ p ∈ polls, (pollingLoop target).GoesOn deadline p) :
    ¬ LastHits target (polls ++ rest) polls.length := by
  rintro ⟨hcalls, p, hp, hhits⟩
  rw [List.getElem?_append_left (by omega)] at hp
  exact (goesOn_emits (h p (List.mem_of_getElem? hp))).1 hhits

/-- The law, from how the run stands. -/
theorem polling_ordered (htarget : target ≠ "deleted") {polls : List Poll}
    {r : Deadline.Polled SseEvent} (h : Outcome (pollingLoop target) deadline polls r) :
    (∃ statuses errors, r.events = statuses ++ errors ∧
      (∀ e ∈ statuses, ∃ status, status ≠ target ∧ e = statusEvent status) ∧
      errors.length ≤ 1 ∧ ∀ e ∈ errors, e.name = "error" ∧ r.finished = true) ∧
    (r.finished = true →
      ((∀ e ∈ r.events, e.name ≠ "error") ↔ LastHits target polls r.calls)) := by
  cases h with
  | waiting hgo =>
    refine ⟨⟨_, [], (List.append_nil _).symm, statuses_of_goesOn hgo, by simp, by simp⟩, ?_⟩
    intro hfinished
    cases hfinished
  | @late before p rest hgo hlate =>
    refine ⟨⟨_, _, rfl, statuses_of_goesOn hgo, Nat.le_refl 1, ?_⟩, fun _ => ?_⟩
    · intro e he
      rw [List.mem_singleton.mp he]
      exact ⟨rfl, rfl⟩
    · refine ⟨fun hnone => ?_, fun hlast => (not_lastHits hgo hlast).elim⟩
      exact (hnone _ (List.mem_append_right _ (List.mem_singleton.mpr rfl)) rfl).elim
  | @stopped before p rest hgo hnow hstops =>
    have hlast : LastHits target (before ++ p :: rest) (before.length + 1) ↔ p.Hits target := by
      unfold LastHits
      simp
    rcases stops_emits htarget hstops with ⟨hhits, hemits⟩ | ⟨hmiss, message, hemits⟩
    · rw [hemits, List.append_nil]
      have hstatuses := statuses_of_goesOn hgo
      refine ⟨⟨_, [], (List.append_nil _).symm, hstatuses, by simp, by simp⟩, fun _ => ?_⟩
      exact ⟨fun _ => hlast.mpr hhits, fun _ => statuses_ne_error hstatuses⟩
    · rw [hemits]
      refine ⟨⟨_, _, rfl, statuses_of_goesOn hgo, Nat.le_refl 1, ?_⟩, fun _ => ?_⟩
      · intro e he
        rw [List.mem_singleton.mp he]
        exact ⟨rfl, rfl⟩
      · refine ⟨fun hnone => ?_, fun h => (hmiss (hlast.mp h)).elim⟩
        exact (hnone _ (List.mem_append_right _ (List.mem_singleton.mpr rfl)) rfl).elim

end Polling

/-- Whatever the answers: a stream that sleeps three seconds between two polls keeps the law. -/
theorem polling_law {target : String} (htarget : target ≠ "deleted") (timeout : Nat)
    {start : Instant} {polls : List Poll} (hpaced : PacedPolls 3 start polls) :
    PollingLaw target timeout polls (pollStatusStream target timeout start polls) := by
  have hrun := (pollingLoop target).run_outcome (start + timeout) polls
  have hgap : 0 < fromSecs 3 := fromSecs_pos (by decide)
  have hcalls := hrun.calls_le hgap hpaced
  have hends := hrun.finished_of_long hgap hpaced
  obtain ⟨hordered, hsilent⟩ := polling_ordered htarget hrun
  rw [Nat.add_sub_cancel_left] at hcalls hends
  rw [pollStatusStream, pollLoop_eq]
  exact ⟨hcalls, hends, hordered, hsilent⟩

theorem polling_law_two_polls :
    PollingLaw "running" (fromSecs 600) [⟨1, .ok none⟩, ⟨fromSecs 4, .ok none⟩]
      (pollStatusStream "running" (fromSecs 600) 0 [⟨1, .ok none⟩, ⟨fromSecs 4, .ok none⟩]) :=
  polling_law (by decide) _ ⟨by decide, by decide, trivial⟩

/-! ## Watching a deletion -/

def watchingLoop (name : String) : Loop Poll SseEvent where
  now := Poll.now
  emits p :=
    match p.answer with
    | .ok none => [sseEvent "deleted" (nameData name)]
    | .ok (some _) => [statusEvent "deleting"]
    | .error _ => []
  stops p :=
    match p.answer with
    | .ok none => true
    | _ => false
  late := [sseError "timeout waiting for deletion"]

theorem deletionLoop_eq (name : String) (deadline : Instant) (polls : List Poll) :
    deletionLoop name deadline polls = .ofPolled ((watchingLoop name).run deadline polls) := by
  induction polls with
  | nil => rfl
  | cons p polls ih =>
    obtain ⟨now, answer⟩ := p
    by_cases hlate : now > deadline
    · simp [deletionLoop, Loop.run, watchingLoop, StreamRun.ofPolled, hlate]
    · rcases answer with e | _ | agent
      · simp [deletionLoop, Loop.run, watchingLoop, StreamRun.ofPolled, StreamRun.quiet, hlate, ih]
      · simp [deletionLoop, Loop.run, watchingLoop, StreamRun.ofPolled, hlate]
      · simp [deletionLoop, Loop.run, watchingLoop, StreamRun.ofPolled, StreamRun.emit, statusEvent,
          hlate, ih]

/-- The delete call for this name was made and accepted. -/
def DeleteAccepted (name : String) (tr : List (Event Cluster Call Answer)) : Prop :=
  ∃ s s', ⟨s, .deleteAgent name, .ok (), s'⟩ ∈ tr

/-- The last poll was answered that there is no such Agent. -/
def LastAbsent (polls : List Poll) (calls : Nat) : Prop :=
  calls ≠ 0 ∧ ∃ p, polls[calls - 1]? = some p ∧ p.answer = .ok none

/-- The events of a stream with one terminal event: any number of `status` events, and the terminal
one at the end, once the stream has ended. -/
def Terminates (run : StreamRun) : Prop :=
  ∃ statuses terminal, run.events = statuses ++ terminal ∧ (∀ e ∈ statuses, e.name = "status") ∧
    if run.finished then ∃ e, terminal = [e] ∧ (e.name = "deleted" ∨ e.name = "error")
    else terminal = []

/-- What the stream of a delete promises, at every stage; `tr` are the calls the delete made before
its polling. -/
structure DeletionLaw (name : String) (tr : List (Event Cluster Call Answer)) (polls : List Poll)
    (run : StreamRun) : Prop where
  bounded : run.calls ≤ 31
  ends : 31 < polls.length → run.finished = true
  terminates : Terminates run
  truthful : (∃ e ∈ run.events, e.name = "deleted") →
    DeleteAccepted name tr ∧ LastAbsent polls run.calls

section Deletion

variable {name : String} {deadline : Instant}

theorem deleting_of_goesOn {polls : List Poll}
    (h : ∀ p ∈ polls, (watchingLoop name).GoesOn deadline p) :
    ∀ e ∈ polls.flatMap (watchingLoop name).emits, e.name = "status" := by
  intro e he
  obtain ⟨⟨now, answer⟩, hp, he⟩ := List.mem_flatMap.mp he
  obtain ⟨-, hstops⟩ := h _ hp
  rcases answer with err | _ | agent
  · simp [watchingLoop] at he
  · simp [watchingLoop] at hstops
  · simp only [watchingLoop, List.mem_singleton] at he
    rw [he]
    rfl

theorem watching_terminates {polls : List Poll} {r : Deadline.Polled SseEvent}
    (h : Outcome (watchingLoop name) deadline polls r) :
    Terminates (.ofPolled r) ∧
      ((∃ e ∈ r.events, e.name = "deleted") → LastAbsent polls r.calls) := by
  have hnever : ∀ {events : List SseEvent}, (∀ e ∈ events, e.name = "status") →
      ∀ e ∈ events, e.name ≠ "deleted" := by
    intro events hstatus e he
    rw [hstatus e he]
    decide
  cases h with
  | waiting hgo =>
    have hstatus := deleting_of_goesOn hgo
    refine ⟨⟨_, [], (List.append_nil _).symm, hstatus, rfl⟩, ?_⟩
    rintro ⟨e, he, hname⟩
    exact (hnever hstatus e he hname).elim
  | @late before p rest hgo hlate =>
    have hstatus := deleting_of_goesOn hgo
    refine ⟨⟨_, _, rfl, hstatus, _, rfl, .inr rfl⟩, ?_⟩
    rintro ⟨e, he, hname⟩
    rcases List.mem_append.mp he with he | he
    · exact (hnever hstatus e he hname).elim
    · rw [List.mem_singleton.mp he] at hname
      exact absurd hname (by decide)
  | @stopped before p rest hgo hnow hstops =>
    have hstatus := deleting_of_goesOn hgo
    have habsent : p.answer = .ok none := by
      obtain ⟨now, answer⟩ := p
      rcases answer with err | _ | agent
      · simp [watchingLoop] at hstops
      · rfl
      · simp [watchingLoop] at hstops
    have hemits : (watchingLoop name).emits p = [sseEvent "deleted" (nameData name)] := by
      simp only [watchingLoop, habsent]
    refine ⟨⟨_, _, rfl, hstatus, _, hemits, .inl rfl⟩, fun _ => ?_⟩
    exact ⟨by simp, p, by simp, habsent⟩

end Deletion

/-- The delete was accepted and the stream watches the Agent go, or the stream is an error. -/
theorem deleteInstance_cases {serves : Cluster → (c : Call) → Answer c → Cluster → Prop}
    {env : Cluster → Cluster → Prop} {name : String} {s s' : Cluster}
    {tr : List (Event Cluster Call Answer)} {stream : Stream}
    (h : Exec serves env (deleteInstance name) s tr stream s') :
    (DeleteAccepted name tr ∧
        stream = fun start polls => deletionLoop name (start + fromSecs 60) polls) ∨
      ∃ message, stream = errorStream message := by
  have hwp : wp serves env (fun tr stream _ => (DeleteAccepted name tr ∧
      stream = fun start polls => deletionLoop name (start + fromSecs 60) polls) ∨
        ∃ message, stream = errorStream message) (deleteInstance name) s := by
    intro s1 _ r s2 _
    simp only [ret_bind]
    rcases decodeAnswer r with e | _ | agent
    · exact fun _ _ => .inr ⟨_, rfl⟩
    · exact fun _ _ => .inr ⟨_, rfl⟩
    · intro s3 _ r s4 _
      rcases r with e | ⟨⟩
      · exact fun _ _ => .inr ⟨_, rfl⟩
      · exact fun _ _ => .inl ⟨⟨s3, s4, by simp⟩, rfl⟩
  exact exec_wp h hwp

/-- However the API server answers the delete and the polls: a stream that sleeps two seconds
between two polls keeps the law. -/
theorem deletion_law {serves : Cluster → (c : Call) → Answer c → Cluster → Prop}
    {env : Cluster → Cluster → Prop} {name : String} {s s' : Cluster}
    {tr : List (Event Cluster Call Answer)} {stream : Stream}
    (hexec : Exec serves env (deleteInstance name) s tr stream s') {start : Instant}
    {polls : List Poll} (hpaced : PacedPolls 2 start polls) :
    DeletionLaw name tr polls (stream start polls) := by
  rcases deleteInstance_cases hexec with ⟨haccepted, rfl⟩ | ⟨message, rfl⟩
  · have hrun := (watchingLoop name).run_outcome (start + fromSecs 60) polls
    have hgap : 0 < fromSecs 2 := fromSecs_pos (by decide)
    have hcalls := hrun.calls_le hgap hpaced
    have hends := hrun.finished_of_long hgap hpaced
    have hfit : fromSecs 60 / fromSecs 2 + 1 = 31 := by decide
    obtain ⟨hterminates, habsent⟩ := watching_terminates hrun
    rw [Nat.add_sub_cancel_left, hfit] at hcalls hends
    show DeletionLaw name tr polls (deletionLoop name (start + fromSecs 60) polls)
    rw [deletionLoop_eq]
    exact ⟨hcalls, hends, hterminates, fun hdeleted => ⟨haccepted, habsent hdeleted⟩⟩
  · refine ⟨Nat.zero_le _, fun _ => rfl, ⟨[], _, rfl, by simp, _, rfl, .inr rfl⟩, ?_⟩
    rintro ⟨e, he, hname⟩
    have hne : "error" ≠ "deleted" := by decide
    rw [List.mem_singleton.mp he] at hname
    exact (hne hname).elim

/-- The delete of an instance that is there, with a poll that finds it gone. -/
theorem deletion_law_one_poll : ∃ tr stream s',
    Exec (Answers Server.verbatim.exec) Alone (deleteInstance "a")
      (Cluster.empty.setAgent "a" (some ⟨{}, (requestedSpec { image := "agent:v1" }).toJson, none⟩))
      tr stream s' ∧
    DeletionLaw "a" tr [⟨1, .ok none⟩] (stream 0 [⟨1, .ok none⟩]) := by
  have hexec : Exec (Answers Server.verbatim.exec) Alone (deleteInstance "a")
      (Cluster.empty.setAgent "a" (some ⟨{}, (requestedSpec { image := "agent:v1" }).toJson, none⟩))
      _ _ _ :=
    run_exec ..
  exact ⟨_, _, _, hexec, deletion_law hexec ⟨by decide, trivial⟩⟩

end Api
end AgentHosting
