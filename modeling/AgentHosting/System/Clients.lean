import AgentHosting.System.Updates

/-!
# AgentHosting.System.Clients

Any number of clients of the API server at once: what a request is answered when another one was
faster. Each handler first reads the Agent and then acts; the check is answered 409 and 404, an act
that comes too late is answered 500.

* `Sound`                 — the invariant: every stored Agent decodes, and every late error of a
  request becomes `AppError::KubeError`.
* `created_le_one`        — between two deletions of a name at most one create of it succeeds.
* `races_classified_iff`  — the outcomes are 409 and 404 exactly in the runs where no act comes too
  late.
-/

namespace AgentHosting
namespace System

open Kube Prog

/-! ## Requests as trees of calls -/

section Trees

variable (name : String) (start : Api.Instant) (clock : List Api.Instant)

theorem patchState_task (state : String) (stream : Api.Stream) :
    (do
      let _ ← Api.requireAgent name
      Api.fromKube (request (.patchAgent name (Api.statePatch state)))
      pure stream : Api.Handler Api.Stream).run.bind (afterHandler name start clock) =
      .call (.getAgent name) fun r => match Api.decodeAnswer r with
        | .ok (some _) => .call (.patchAgent name (Api.statePatch state)) fun
          | .ok () => afterHandler name start clock (.ok stream)
          | .error e => .ret (.answered (.error (.kubeError e)))
        | .ok none => .ret (.answered (.error (Api.instanceNotFound name)))
        | .error e => .ret (.answered (.error (.kubeError e))) := by
  show Prog.call _ _ = _
  congr 1
  funext r
  show Prog.bind (Prog.bind (Prog.bind (Prog.bind (.ret (Api.decodeAnswer r)) _) _) _) _ = _
  rcases Api.decodeAnswer r with e | _ | agent
  · rfl
  · rfl
  · show Prog.call _ _ = _
    congr 1
    funext r
    rcases r with e | ⟨⟩ <;> rfl

theorem create_task {uuid : String} {req : Api.CreateInstanceRequest}
    (hvalid : ¬ (req.name.isNone ∧ req.serviceType.isNone)) :
    let r := Api.Request.create uuid req
    requestTask r start clock =
      .call (.getAgent r.name) fun answer => match Api.decodeAnswer answer with
        | .ok (some _) => .ret (.answered (.error
            (.conflict ("instance '" ++ r.name ++ "' already exists"))))
        | .ok none =>
          .call (.createAgent ⟨{ name := some r.name }, (Api.requestedSpec req).toJson, none⟩) fun
          | .ok () => afterHandler r.name start clock (.ok (Api.createInstanceStream r.name))
          | .error e => .ret (.answered (.error (.kubeError e)))
        | .error e => .ret (.answered (.error (.kubeError e))) := by
  intro r
  show (ExceptT.run (Api.createInstance uuid req)).bind _ = _
  rw [Api.createInstance, if_neg hvalid]
  show Prog.call _ _ = _
  congr 1
  funext answer
  show Prog.bind (Prog.bind (Prog.bind (.ret (Api.decodeAnswer answer)) _) _) _ = _
  rcases Api.decodeAnswer answer with e | _ | agent
  · rfl
  · show Prog.call _ _ = _
    congr 1
    funext r
    rcases r with e | ⟨⟩ <;> rfl
  · rfl

theorem create_task_invalid {uuid : String} {req : Api.CreateInstanceRequest}
    (hinvalid : req.name.isNone ∧ req.serviceType.isNone) :
    requestTask (.create uuid req) start clock =
      .ret (.answered (.error (.badRequest "missing required field: service_type"))) := by
  show (ExceptT.run (Api.createInstance uuid req)).bind _ = _
  rw [Api.createInstance, if_pos hinvalid]
  rfl

end Trees

/-! ## The invariant -/

/-- The Agent decodes, as what the CRD's schema admits does. -/
def Readable (o : AgentObject) : Prop := ∃ agent, Api.decodeAgent o = .ok agent

theorem readable_iff {o : AgentObject} : Readable o ↔
    (∃ spec, Api.AgentSpec.fromJson o.spec = some spec) ∧
      ∃ status, Api.AgentStatus.fromStored o.status = some status := by
  constructor
  · rintro ⟨agent, h⟩
    obtain ⟨-, hspec, hstatus⟩ := Api.decodeAgent_ok.mp h
    exact ⟨⟨_, hspec⟩, _, hstatus⟩
  · rintro ⟨⟨spec, hspec⟩, status, hstatus⟩
    exact ⟨⟨o.metadata, spec, status⟩, Api.decodeAgent_ok.mpr ⟨rfl, hspec, hstatus⟩⟩

theorem readable_created (name : String) (spec : Api.AgentSpec) :
    Readable ⟨{ name := some name }, spec.toJson, none⟩ :=
  readable_iff.mpr ⟨⟨spec, Api.AgentSpec.fromJson_toJson spec⟩, none, rfl⟩

theorem readable_statePatch {o : AgentObject} (h : Readable o) (st : Api.AgentState) :
    Readable (o.patchMain (Api.statePatch (stateText st))) := by
  obtain ⟨⟨spec, hspec⟩, hstatus⟩ := readable_iff.mp h
  rw [patchMain_statePatch]
  exact readable_iff.mpr ⟨⟨_, fromJson_statePatch hspec st⟩, hstatus⟩

/-- An error of the call ends the request as `AppError::KubeError`. -/
def ErrorAnswered {α : Type} (k : Except KubeError α → Prog Call Answer Outcome) : Prop :=
  ∀ e, k (.error e) = .ret (.answered (.error (.kubeError e)))

/-- The calls of the requests, with what they make of an error. -/
inductive ClientNode : (c : Call) → (Answer c → Prog Call Answer Outcome) → Prop where
  | read {n : String} {k : Answer (.getAgent n) → Prog Call Answer Outcome} :
      ClientNode (.getAgent n) k
  | create {o : AgentObject} {k : Answer (.createAgent o) → Prog Call Answer Outcome} :
      Readable o → ErrorAnswered k → ClientNode (.createAgent o) k
  | patch {n : String} (st : Api.AgentState)
      {k : Answer (.patchAgent n (Api.statePatch (stateText st))) → Prog Call Answer Outcome} :
      ErrorAnswered k → ClientNode (.patchAgent n (Api.statePatch (stateText st))) k
  | delete {n : String} {k : Answer (.deleteAgent n) → Prog Call Answer Outcome} :
      ClientNode (.deleteAgent n) k
  | deletePod {n : String} {k : Answer (.delete .pod n) → Prog Call Answer Outcome} :
      ClientNode (.delete .pod n) k

theorem stream_nodes (name : String) (start : Api.Instant) (clock : List Api.Instant)
    (stream : Api.Stream) : (afterHandler name start clock (.ok stream)).AllNodes ClientNode := by
  have hcalls : (afterHandler name start clock (.ok stream)).AllCalls
      fun c => ∀ k, ClientNode c k :=
    (watch_calls (fun _ => .read) stream start clock []).bind fun _ => trivial
  exact hcalls.allNodes fun _ k h => h k

theorem patchState_nodes (name : String) (st : Api.AgentState) (stream : Api.Stream)
    (start : Api.Instant) (clock : List Api.Instant) :
    ((do
      let _ ← Api.requireAgent name
      Api.fromKube (request (.patchAgent name (Api.statePatch (stateText st))))
      pure stream : Api.Handler Api.Stream).run.bind (afterHandler name start clock)).AllNodes
        ClientNode := by
  rw [patchState_task]
  refine ⟨.read, fun r => ?_⟩
  dsimp only
  rcases Api.decodeAnswer r with e | _ | agent
  · trivial
  · trivial
  · refine ⟨.patch st fun e => rfl, fun r => ?_⟩
    rcases r with e | ⟨⟩
    · trivial
    · exact stream_nodes ..

theorem createInstance_nodes (uuid : String) (req : Api.CreateInstanceRequest)
    (start : Api.Instant) (clock : List Api.Instant) :
    (requestTask (.create uuid req) start clock).AllNodes ClientNode := by
  by_cases hvalid : req.name.isNone ∧ req.serviceType.isNone
  · rw [create_task_invalid _ _ hvalid]
    trivial
  · rw [create_task _ _ hvalid]
    refine ⟨.read, fun r => ?_⟩
    dsimp only
    rcases Api.decodeAnswer r with e | _ | agent
    · trivial
    · refine ⟨.create (readable_created _ _) fun e => rfl, fun r => ?_⟩
      rcases r with e | ⟨⟩
      · trivial
      · exact stream_nodes ..
    · trivial

theorem request_nodes (r : Api.Request) (start : Api.Instant) (clock : List Api.Instant) :
    (requestTask r start clock).AllNodes ClientNode := by
  cases r with
  | create uuid req => exact createInstance_nodes uuid req start clock
  | start name => exact patchState_nodes name .running _ start clock
  | stop name => exact patchState_nodes name .stopped _ start clock
  | restart name =>
    have hcalls : (Api.Request.restart name).handler.AllCalls fun c => ∀ k, ClientNode c k :=
      restartInstance_calls (fun _ => .read) fun _ => .deletePod
    exact (requestTask_calls (fun _ => .read) hcalls start clock).allNodes fun _ k h => h k
  | delete name =>
    have hcalls : (Api.Request.delete name).handler.AllCalls fun c => ∀ k, ClientNode c k :=
      (deleteInstance_calls (fun _ => .read) fun _ => .delete).bind fun _ => trivial
    exact (requestTask_calls (fun _ => .read) hcalls start clock).allNodes fun _ k h => h k

/-! ## Clients -/

section Clients

variable {Slot : Type}

inductive Clients : TaskId Slot → Prog Call Answer Outcome → Prop where
  | request (r : Api.Request) (start : Api.Instant) (clock : List Api.Instant) (n : Nat) :
      Clients (.api n) (requestTask r start clock)

/-- A create of `name` that was carried out. -/
def created (name : String) : Label Slot → Bool
  | .call _ (.createAgent o) (.ok _) => decide (o.metadata.name.getD "" = name)
  | _ => false

/-- A deletion of `name` that was carried out. -/
def deleted (name : String) : Label Slot → Bool
  | .call _ (.deleteAgent n) (.ok _) => decide (n = name)
  | _ => false

/-- Task `i` has been answered an error with this status. -/
def AnsweredWith (status : Nat) (i : TaskId Slot) (w : World Slot) : Prop :=
  ∃ e : Api.AppError, w.progs i = some (.ret (.answered (.error e))) ∧
    e.intoResponse.status = status

/-- What the losers of a race for `name` are told. A create learns at its check or at its create
that the name is taken, a start or stop at its patch that the Agent is gone. -/
def Classified (name : String) (w w' : World Slot) : Label Slot → Prop
  | .call i (.getAgent n) _ =>
    (∃ uuid req start clock, w.progs i = some (requestTask (.create uuid req) start clock)) →
      n = name → (w.state.agents name).isSome → w'.state = w.state ∧ AnsweredWith 409 i w'
  | .call i (.createAgent o) _ =>
    o.metadata.name.getD "" = name → (w.state.agents name).isSome →
      w'.state = w.state ∧ AnsweredWith 409 i w'
  | .call i (.patchAgent n _) _ =>
    n = name → w.state.agents name = none → w'.state = w.state ∧ AnsweredWith 404 i w'
  | _ => True

/-- Nobody was faster: the create finds the name free, the patch finds the Agent. -/
def Unraced (name : String) (w : World Slot) : Label Slot → Prop
  | .call _ (.createAgent o) _ => o.metadata.name.getD "" = name → w.state.agents name = none
  | .call _ (.patchAgent n _) _ => n = name → (w.state.agents name).isSome
  | _ => True

/-- The invariant of the clients. -/
structure Sound (w : World Slot) : Prop where
  nodes : w.ProgsIn fun _ p => p.AllNodes ClientNode
  readable : ∀ n o, w.state.agents n = some o → Readable o

theorem Sound.initial {s : Cluster} (h : ∀ n o, s.agents n = some o → Readable o) :
    Sound (World.initial s : World Slot) :=
  ⟨World.initial_progsIn _ s, h⟩

variable {graceful : Bool} {deletedAt : String}

/-- A create is carried out where the name is free, and the name stays taken until a deletion. -/
theorem taken_call {s s' : Cluster} {c : Call} {r : Answer c} {i : TaskId Slot} {name : String}
    (hs : (Server.plain graceful deletedAt).exec s c = (r, s'))
    (hkept : deleted name (.call i c r) = false) :
    (created name (.call i c r) = true → s.agents name = none ∧ (s'.agents name).isSome) ∧
      ((s.agents name).isSome → (s'.agents name).isSome) := by
  have hwrite : ∀ {m : String} {o : AgentObject}, (s.agents name).isSome →
      ((s.setAgent m (some o)).agents name).isSome := by
    intro m o h
    by_cases hm : name = m
    · subst hm
      simp
    · rwa [Cluster.setAgent_other s hm]
  cases c with
  | getOpt k n | getAgent n | sleep secs =>
    cases hs
    exact ⟨fun h => absurd h Bool.false_ne_true, id⟩
  | create k o =>
    rw [Server.agents_of_create hs]
    exact ⟨fun h => absurd h Bool.false_ne_true, id⟩
  | delete k n =>
    rw [Server.agents_of_delete hs]
    exact ⟨fun h => absurd h Bool.false_ne_true, id⟩
  | createAgent o =>
    simp only [Server.exec] at hs
    split at hs
    · cases hs
      exact ⟨fun h => absurd h Bool.false_ne_true, id⟩
    · rename_i hfree
      cases hs
      refine ⟨fun h => ?_, hwrite⟩
      obtain rfl := of_decide_eq_true h
      exact ⟨hfree, by simp⟩
  | deleteAgent n =>
    simp only [Server.exec] at hs
    split at hs
    · cases hs
      have hne : name ≠ n := fun h => of_decide_eq_false hkept h.symm
      refine ⟨fun h => absurd h Bool.false_ne_true, fun h => ?_⟩
      rwa [Cluster.setAgent_other s hne]
    · cases hs
      exact ⟨fun h => absurd h Bool.false_ne_true, id⟩
  | patchAgent n patch | patchAgentStatus n patch =>
    simp only [Server.exec] at hs
    split at hs
    · cases hs
      exact ⟨fun h => absurd h Bool.false_ne_true, hwrite⟩
    · cases hs
      exact ⟨fun h => absurd h Bool.false_ne_true, id⟩

variable [DecidableEq Slot]

/-- One step of the clients against the API server. -/
abbrev ClientStep (graceful : Bool) (deletedAt : String) :
    World Slot → Label Slot → World Slot → Prop :=
  Pool.Step Clients (Answers (Server.plain graceful deletedAt).exec) Alone

theorem readable_call {s s' : Cluster} {c : Call} {r : Answer c}
    {k : Answer c → Prog Call Answer Outcome} (hnode : ClientNode c k)
    (hs : (Server.plain graceful deletedAt).exec s c = (r, s'))
    (h : ∀ n o, s.agents n = some o → Readable o) : ∀ n o, s'.agents n = some o → Readable o := by
  have hset : ∀ {m : String} {o' : Option AgentObject}, (∀ o, o' = some o → Readable o) →
      ∀ n o, (s.setAgent m o').agents n = some o → Readable o := by
    intro m o' ho' n o ho
    by_cases hn : n = m
    · subst hn
      exact ho' o (by simpa using ho)
    · exact h n o (by rwa [Cluster.setAgent_other s hn] at ho)
  cases hnode with
  | read =>
    cases hs
    exact h
  | create hreadable _ =>
    simp only [Server.exec] at hs
    split at hs
    · cases hs
      exact h
    · cases hs
      exact hset fun o ho => by cases ho; exact hreadable
  | patch st _ =>
    simp only [Server.exec] at hs
    split at hs
    · rename_i o ho
      cases hs
      exact hset fun o' ho' => by cases ho'; exact readable_statePatch (h _ _ ho) st
    · cases hs
      exact h
  | delete =>
    simp only [Server.exec] at hs
    split at hs
    · cases hs
      exact hset fun o ho => by cases ho
    · cases hs
      exact h
  | deletePod =>
    rw [Server.agents_of_delete hs]
    exact h

theorem sound_step {w w' : World Slot} {l : Label Slot} (h : Sound w)
    (hs : ClientStep graceful deletedAt w l w') : Sound w' := by
  refine ⟨Pool.progs_step ?_ (fun _ _ _ hp r => hp.2 r) h.nodes hs, ?_⟩
  · rintro i p ⟨r, start, clock, n⟩
    exact request_nodes r start clock
  · cases hs with
    | spawn _ _ => exact h.readable
    | call hp hserve => exact readable_call (h.nodes _ _ hp).1 hserve h.readable
    | exit _ => exact h.readable
    | env he => exact he.elim

/-! ## Lost races -/

/-- A create that comes too late changes nothing and is answered 500. -/
theorem late_create {w w' : World Slot} (h : Sound w) {i : TaskId Slot} {o : AgentObject}
    {r : Answer (.createAgent o)}
    (hs : ClientStep graceful deletedAt w (.call i (.createAgent o) r) w')
    (htaken : (w.state.agents (o.metadata.name.getD "")).isSome) :
    w'.state = w.state ∧ AnsweredWith 500 i w' := by
  obtain ⟨o', ho'⟩ := Option.isSome_iff_exists.mp htaken
  cases hs with
  | call hp hserve =>
    simp only [Answers, Server.exec, ho'] at hserve
    cases hserve
    refine ⟨rfl, .kubeError alreadyExists, ?_, rfl⟩
    rw [Pool.setProg_same]
    cases (h.nodes _ _ hp).1 with
    | create _ herror => rw [herror]

/-- A patch that comes too late changes nothing and is answered 500. -/
theorem late_patch {w w' : World Slot} (h : Sound w) {i : TaskId Slot} {n : String} {patch : Json}
    {r : Answer (.patchAgent n patch)}
    (hs : ClientStep graceful deletedAt w (.call i (.patchAgent n patch) r) w')
    (hgone : w.state.agents n = none) : w'.state = w.state ∧ AnsweredWith 500 i w' := by
  cases hs with
  | call hp hserve =>
    simp only [Answers, Server.exec, hgone] at hserve
    cases hserve
    refine ⟨rfl, .kubeError notFound, ?_, rfl⟩
    rw [Pool.setProg_same]
    cases (h.nodes _ _ hp).1 with
    | patch st herror => rw [herror]

/-- A create that finds the name taken at its check changes nothing and is answered 409. -/
theorem checked_create {w w' : World Slot} (h : Sound w) {i : TaskId Slot} {n : String}
    {r : Answer (.getAgent n)} {uuid : String} {req : Api.CreateInstanceRequest}
    {start : Api.Instant} {clock : List Api.Instant}
    (hprog : w.progs i = some (requestTask (.create uuid req) start clock))
    (hs : ClientStep graceful deletedAt w (.call i (.getAgent n) r) w')
    (htaken : (w.state.agents n).isSome) : w'.state = w.state ∧ AnsweredWith 409 i w' := by
  obtain ⟨o, ho⟩ := Option.isSome_iff_exists.mp htaken
  obtain ⟨agent, hagent⟩ := h.readable n o ho
  cases hs with
  | call hp hserve =>
    rw [hprog] at hp
    by_cases hvalid : req.name.isNone ∧ req.serviceType.isNone
    · rw [create_task_invalid _ _ hvalid] at hp
      cases hp
    · rw [create_task _ _ hvalid] at hp
      cases hp
      cases hserve
      refine ⟨rfl, .conflict ("instance '" ++ (Api.Request.create uuid req).name ++
        "' already exists"), ?_, rfl⟩
      rw [Pool.setProg_same, ho]
      simp only [Api.decodeAnswer, hagent]
      rfl

theorem classified_iff_unraced {w w' : World Slot} {l : Label Slot} (h : Sound w)
    (hs : ClientStep graceful deletedAt w l w') (name : String) :
    Classified name w w' l ↔ Unraced name w l := by
  have hstatus : ∀ {status : Nat} {i : TaskId Slot}, AnsweredWith status i w' →
      AnsweredWith 500 i w' → status = 500 := by
    rintro status i ⟨e, he, rfl⟩ ⟨e', he', hstatus⟩
    rw [he] at he'
    cases he'
    exact hstatus
  cases l with
  | call i c r =>
    cases c with
    | getAgent n =>
      refine iff_of_true ?_ trivial
      rintro ⟨uuid, req, start, clock, hprog⟩ rfl htaken
      exact checked_create h hprog hs htaken
    | createAgent o =>
      constructor
      · rintro hclass rfl
        by_contra hfree
        have htaken := Option.isSome_iff_ne_none.mpr hfree
        cases hstatus (hclass rfl htaken).2 (late_create h hs htaken).2
      · rintro hfree rfl htaken
        rw [hfree rfl] at htaken
        cases htaken
    | patchAgent n patch =>
      constructor
      · rintro hclass rfl
        by_contra hgone
        have hgone := Option.not_isSome_iff_eq_none.mp hgone
        cases hstatus (hclass rfl hgone).2 (late_patch h hs hgone).2
      · rintro hpresent rfl hgone
        have hsome := hpresent rfl
        rw [hgone] at hsome
        cases hsome
    | _ => exact Iff.rfl
  | _ => exact Iff.rfl

/-! ## One create between two deletions -/

theorem created_le_one {w w' : World Slot} {tr : List (World Slot × Label Slot)} {name : String}
    (hrun : Run (ClientStep graceful deletedAt) w tr w')
    (hkept : ∀ e ∈ tr, deleted name e.2 = false) :
    (tr.filter fun e => created name e.2).length ≤
      if (w'.state.agents name).isSome then 1 else 0 := by
  induction hrun with
  | nil => exact Nat.zero_le _
  | @snoc w1 w2 tr l hr hs ih =>
    have hprefix := ih fun e he => hkept e (List.mem_append_left _ he)
    have hlast : deleted name l = false := hkept (w1, l) (by simp)
    rw [List.filter_append, List.length_append]
    cases hs with
    | @call i c k r s' hp hserve =>
      obtain ⟨hnew, hstays⟩ := taken_call hserve hlast
      show _ + _ ≤ if (s'.agents name).isSome then 1 else 0
      cases hcreated : created name (.call i c r) with
      | true =>
        obtain ⟨hfree, htaken⟩ := hnew hcreated
        simpa [hfree, htaken, hcreated] using hprefix
      | false =>
        simp only [hcreated, List.filter_cons, List.filter_nil, Bool.false_eq_true, if_false,
          List.length_nil, Nat.add_zero]
        refine Nat.le_trans hprefix ?_
        split
        · rename_i htaken
          exact Nat.le_of_eq (if_pos (hstays htaken)).symm
        · exact Nat.zero_le _
    | env he => exact he.elim
    | spawn _ _ => exact hprefix
    | exit _ => exact hprefix

/-- For any clients and any interleaving of their calls: between two deletions of a name at most one
create of it is carried out, and every loser of a race is told so, with nothing changed, exactly in
the runs where no create and no patch comes too late. -/
theorem races_classified_iff {s : Cluster} (hreadable : ∀ n o, s.agents n = some o → Readable o)
    {w : World Slot} {tr : List (World Slot × Label Slot)}
    (hrun : Run (ClientStep graceful deletedAt) (World.initial s) tr w) (name : String) :
    (∀ segment, segment <:+: tr → (∀ e ∈ segment, deleted name e.2 = false) →
      (segment.filter fun e => created name e.2).length ≤ 1) ∧
    ((∀ e ∈ tr, ∀ w', ClientStep graceful deletedAt e.1 e.2 w' → Classified name e.1 w' e.2) ↔
      ∀ e ∈ tr, Unraced name e.1 e.2) := by
  constructor
  · rintro segment ⟨before, after, rfl⟩ hkept
    obtain ⟨w1, hbefore, -⟩ := hrun.split
    obtain ⟨w0, -, hsegment⟩ := hbefore.split
    refine Nat.le_trans (created_le_one hsegment hkept) ?_
    split
    · exact Nat.le_refl 1
    · exact Nat.zero_le 1
  · have hsound := hrun.invariant_at (fun _ _ _ h hs => sound_step h hs) (Sound.initial hreadable)
    constructor
    · intro h e he
      obtain ⟨w', hstep⟩ := hrun.step_of_mem e he
      exact (classified_iff_unraced (hsound e he) hstep name).mp (h e he w' hstep)
    · intro h e he w' hstep
      exact (classified_iff_unraced (hsound e he) hstep name).mpr (h e he)

end Clients

def sampleCreate : Api.Request := .create "" { image := "agent:v1", name := some "a" }

/-- Two clients want to create `a`, and the second looks after the first has created it. -/
theorem races_classified_iff_create :
    ∃ (tr : List (World Unit × Label Unit)) (w : World Unit),
      Run (ClientStep false "") (World.initial Cluster.empty) tr w ∧
        (w.state.agents "a").isSome ∧ AnsweredWith 409 (.api 1) w ∧
        ∀ e ∈ tr, ∀ w', ClientStep false "" e.1 e.2 w' → Classified "a" e.1 w' e.2 := by
  have hrun : Run (ClientStep false "") (World.initial Cluster.empty) _ _ :=
    .snoc (.snoc (.snoc (.snoc (.snoc .nil
      (.spawn (i := (.api 0 : TaskId Unit)) rfl (.request sampleCreate 0 [] 0)))
      (.spawn (i := (.api 1 : TaskId Unit)) rfl (.request sampleCreate 0 [] 1)))
      (Pool.step_advance (i := (.api 0 : TaskId Unit)) rfl))
      (Pool.step_advance (i := (.api 0 : TaskId Unit)) rfl))
      (Pool.step_advance (i := (.api 1 : TaskId Unit)) rfl)
  refine ⟨_, _, hrun, rfl, ⟨_, rfl, rfl⟩, ?_⟩
  refine (races_classified_iff (fun n o h => by cases h) hrun "a").2.mpr ?_
  intro e he
  simp only [List.nil_append, List.cons_append, List.mem_cons, List.not_mem_nil, or_false] at he
  rcases he with rfl | rfl | rfl | rfl | rfl
  · trivial
  · trivial
  · trivial
  · exact fun _ => rfl
  · trivial

/-- Two clients create `a` at once: both find it free, and the slower one is answered 500. -/
theorem create_race_500 :
    ¬ ∀ (tr : List (World Unit × Label Unit)) (w : World Unit),
      Run (ClientStep false "") (World.initial Cluster.empty) tr w →
        ∀ e ∈ tr, ∀ w', ClientStep false "" e.1 e.2 w' → Classified "a" e.1 w' e.2 := by
  intro h
  have hrun : Run (ClientStep false "") (World.initial Cluster.empty) _ _ :=
    .snoc (.snoc (.snoc (.snoc (.snoc .nil
      (.spawn (i := (.api 0 : TaskId Unit)) rfl (.request sampleCreate 0 [] 0)))
      (.spawn (i := (.api 1 : TaskId Unit)) rfl (.request sampleCreate 0 [] 1)))
      (Pool.step_advance (i := (.api 0 : TaskId Unit)) rfl))
      (Pool.step_advance (i := (.api 1 : TaskId Unit)) rfl))
      (Pool.step_advance (i := (.api 0 : TaskId Unit)) rfl)
  obtain ⟨-, e, he, hstatus⟩ :=
    h _ _ (.snoc hrun (Pool.step_advance (i := (.api 1 : TaskId Unit)) rfl)) _
      (List.mem_append_right _ List.mem_cons_self) _
      (Pool.step_advance (i := (.api 1 : TaskId Unit)) rfl) rfl rfl
  cases he
  cases hstatus

end System
end AgentHosting
