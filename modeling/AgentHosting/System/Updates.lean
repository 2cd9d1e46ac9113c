import AgentHosting.System.Tasks
import AgentHosting.Operator.Format

/-!
# AgentHosting.System.Updates

The two writers of a stored Agent: start and stop requests, which patch the desired state, and the
operator, which patches the status. Neither locks nor compares resource versions.

* `Write`          — the abstract model: an Agent as the writes to it, in their order.
* `agent_of_run`   — the stored Agent after any interleaving of requests and reconcile runs is the
  one these writes make.
* `PatchesAsRequested` — each state patched is the one that the request of its task asks for.
* `no_lost_update` — its spec is the original one in the state last asked for, and its status is
  what the operator's patches alone make of it.
-/

namespace AgentHosting
namespace System

open Kube Prog Json

/-! ## A state patch -/

def stateMember (state : String) : String → Option Json :=
  fun k => [("state", Json.str state)].lookup k

theorem patchMain_statePatch (o : AgentObject) (state : String) :
    o.patchMain (Api.statePatch state) =
      { o with spec := mergePatch (.obj (stateMember state)) o.spec } := by
  simp only [AgentObject.patchMain, Api.statePatch, Json.object, get?_mergePatch_obj,
    AgentObject.toJson, get?_record]
  rfl

theorem stateMember_other {state k : String} (h : k ≠ "state") : stateMember state k = none := by
  simp [stateMember, List.lookup_cons, beq_false_of_ne h]

def stateText : Api.AgentState → String
  | .running => "running"
  | .stopped => "stopped"

theorem fromJson_stateText (state : Api.AgentState) :
    Api.AgentState.fromJson (.str (stateText state)) = some state := by
  cases state <;> rfl

/-- Patching the state and decoding gives the spec in that state, every other field as it was. -/
theorem fromJson_statePatch {v : Json} {spec : Api.AgentSpec}
    (h : Api.AgentSpec.fromJson v = some spec) (state : Api.AgentState) :
    Api.AgentSpec.fromJson (mergePatch (.obj (stateMember (stateText state))) v) =
      some { spec with state := state } := by
  cases v with
  | obj f =>
    obtain ⟨h1, h2, h3, h4, -, h6, h7, h8, h9, h10, h11, h12, h13, h14⟩ :=
      Api.AgentSpec.fromJson_obj.mp h
    rw [mergePatch_obj_eq]
    refine Api.AgentSpec.fromJson_obj.mpr ⟨?_, ?_, ?_, ?_, ?_, ?_, ?_, ?_, ?_, ?_, ?_, ?_, ?_, ?_⟩
    · exact (field_merge_absent rfl).trans h1
    · exact (field_merge_absent rfl).trans h2
    · exact (field_merge_absent rfl).trans h3
    · exact (field_merge_absent rfl).trans h4
    · exact field_merge_str (fromJson_stateText state) rfl
    · exact (field_merge_absent rfl).trans h6
    · exact (field_merge_absent rfl).trans h7
    · exact (field_merge_absent rfl).trans h8
    · exact (field_merge_absent rfl).trans h9
    · exact (field_merge_absent rfl).trans h10
    · exact (field_merge_absent rfl).trans h11
    · exact (field_merge_absent rfl).trans h12
    · exact (field_merge_absent rfl).trans h13
    · exact (field_merge_absent rfl).trans h14
  | _ => cases h

/-! ## Writes -/

/-- What is written to a stored Agent: a desired state, or a patch of the status. -/
inductive Write where
  | state (st : Api.AgentState)
  | report (patch : Json)

namespace Write

def apply (o : AgentObject) : Write → AgentObject
  | .state st => o.patchMain (Api.statePatch (stateText st))
  | .report patch => o.patchStatus patch

def state? : Write → Option Api.AgentState
  | .state st => some st
  | .report _ => none

def report? : Write → Option Json
  | .state _ => none
  | .report patch => some patch

/-- The Agent after the writes, in their order. -/
def applyAll (o : AgentObject) (ws : List Write) : AgentObject := ws.foldl apply o

@[simp] theorem applyAll_nil (o : AgentObject) : applyAll o [] = o := rfl

@[simp] theorem applyAll_cons (o : AgentObject) (w : Write) (ws : List Write) :
    applyAll o (w :: ws) = applyAll (w.apply o) ws := rfl

theorem applyAll_append (o : AgentObject) (ws ws' : List Write) :
    applyAll o (ws ++ ws') = applyAll (applyAll o ws) ws' := List.foldl_append

theorem apply_metadata (o : AgentObject) (w : Write) : (w.apply o).metadata = o.metadata := by
  cases w <;> rfl

theorem applyAll_metadata (ws : List Write) (o : AgentObject) :
    (applyAll o ws).metadata = o.metadata := by
  induction ws generalizing o with
  | nil => rfl
  | cons w ws ih => rw [applyAll_cons, ih, apply_metadata]

/-- The status a patch makes depends on the status alone. -/
theorem patchStatus_congr {o o' : AgentObject} (h : o.status = o'.status) (patch : Json) :
    (o.patchStatus patch).status = (o'.patchStatus patch).status := by
  cases patch with
  | obj p =>
    simp only [AgentObject.patchStatus, get?_mergePatch_obj, AgentObject.toJson, get?_record]
    show mergeField _ o.status = mergeField _ o'.status
    rw [h]
  | _ => rfl

theorem foldl_patchStatus_congr (patches : List Json) {o o' : AgentObject}
    (h : o.status = o'.status) : (patches.foldl AgentObject.patchStatus o).status =
      (patches.foldl AgentObject.patchStatus o').status := by
  induction patches generalizing o o' with
  | nil => exact h
  | cons p ps ih => exact ih (patchStatus_congr h p)

/-- The writes of desired states do not touch the status. -/
theorem applyAll_status (ws : List Write) (o : AgentObject) :
    (applyAll o ws).status = ((ws.filterMap report?).foldl AgentObject.patchStatus o).status := by
  induction ws generalizing o with
  | nil => rfl
  | cons w ws ih =>
    rw [applyAll_cons, ih]
    cases w with
    | state st => exact foldl_patchStatus_congr _ rfl
    | report patch => rfl

/-- The reports do not touch the spec, and the last desired state is the one that stays. -/
theorem applyAll_spec (ws : List Write) {o : AgentObject} {spec : Api.AgentSpec}
    (h : Api.AgentSpec.fromJson o.spec = some spec) :
    Api.AgentSpec.fromJson (applyAll o ws).spec =
      some { spec with state := (ws.filterMap state?).getLast?.getD spec.state } := by
  induction ws generalizing o spec with
  | nil => exact h
  | cons w ws ih =>
    rw [applyAll_cons]
    cases w with
    | state st =>
      have hspec : Api.AgentSpec.fromJson (apply o (.state st)).spec =
          some { spec with state := st } := by
        rw [apply, patchMain_statePatch]
        exact fromJson_statePatch h st
      rw [ih hspec, List.filterMap_cons, state?, List.getLast?_cons]
      rfl
    | report patch => exact ih h

/-- Every member of the stored spec but the state stays, whether or not the spec decodes. -/
theorem applyAll_members (ws : List Write) (o : AgentObject) {k : String} (hk : k ≠ "state") :
    (applyAll o ws).spec.get? k = o.spec.get? k := by
  induction ws generalizing o with
  | nil => rfl
  | cons w ws ih =>
    rw [applyAll_cons, ih]
    cases w with
    | state st =>
      rw [apply, patchMain_statePatch, get?_mergePatch_obj, stateMember_other hk, mergeField_none]
    | report patch => rfl

end Write

/-! ## Runs -/

section Runs

variable {Slot : Type}

/-- Start and stop requests for one Agent, and reconcile runs of it. -/
inductive Updating (ctx : Operator.Context) (name : String) :
    TaskId Slot → Prog Call Answer Outcome → Prop where
  | start (start : Api.Instant) (clock : List Api.Instant) (n : Nat) :
      Updating ctx name (.api n) (requestTask (.start name) start clock)
  | stop (start : Api.Instant) (clock : List Api.Instant) (n : Nat) :
      Updating ctx name (.api n) (requestTask (.stop name) start clock)
  | reconcile {agent : Operator.Agent} (slot : Slot) : agent.nameAny = name →
      Updating ctx name (.operator name slot) (reconcileTask ctx agent)

/-- The calls of these tasks. -/
inductive UpdateCall (ctx : Operator.Context) (name : String) : Call → Prop where
  | read : UpdateCall ctx name (.getAgent name)
  | patch (st : Api.AgentState) :
      UpdateCall ctx name (.patchAgent name (Api.statePatch (stateText st)))
  | operator {agent : Operator.Agent} {c : Call} : agent.nameAny = name →
      Operator.OperatorCall ctx agent c → UpdateCall ctx name c

theorem updating_calls {ctx : Operator.Context} {name : String} {i : TaskId Slot}
    {p : Prog Call Answer Outcome} (h : Updating ctx name i p) :
    p.AllCalls (UpdateCall ctx name) := by
  cases h with
  | start start clock n =>
    exact requestTask_calls .read (patchState_calls _ .read (.patch .running)) start clock
  | stop start clock n =>
    exact requestTask_calls .read (patchState_calls _ .read (.patch .stopped)) start clock
  | reconcile slot hname =>
    refine AllCalls.bind ?_ fun _ => trivial
    exact (Operator.reconcile_calls ctx _).mono fun c hc => .operator hname hc

/-- The state a patch of the main resource asks for. -/
def requestedState (patch : Json) : Option Api.AgentState :=
  ((patch.get? "spec").bind (·.get? "state")).bind Api.AgentState.fromJson

theorem requestedState_statePatch (st : Api.AgentState) :
    requestedState (Api.statePatch (stateText st)) = some st := by
  cases st <;> rfl

/-- What a step writes to the Agent called `name`. -/
def Write.of (name : String) : Label Slot → Option Write
  | .call _ (.patchAgent n patch) _ => if n = name then (requestedState patch).map .state else none
  | .call _ (.patchAgentStatus n patch) _ => if n = name then some (.report patch) else none
  | _ => none

def writes (name : String) (tr : List (World Slot × Label Slot)) : List Write :=
  tr.filterMap fun e => Write.of name e.2

/-- The state of the last start or stop applied. -/
def lastState (name : String) (tr : List (World Slot × Label Slot)) : Option Api.AgentState :=
  ((writes name tr).filterMap Write.state?).getLast?

/-- The operator's patches, in their order. -/
def reports (name : String) (tr : List (World Slot × Label Slot)) : List Json :=
  (writes name tr).filterMap Write.report?

theorem writes_snoc (name : String) (tr : List (World Slot × Label Slot)) (w : World Slot)
    (l : Label Slot) :
    writes name (tr ++ [(w, l)]) = writes name tr ++ (Write.of name l).toList := by
  simp only [writes, List.filterMap_append, List.filterMap_cons, List.filterMap_nil]
  cases Write.of name l <;> rfl

variable {S : Server} {ctx : Operator.Context} {name : String}

/-- One call of these tasks on a stored Agent. -/
theorem agent_call {c : Call} {r : Answer c} {s s' : Cluster} {o : AgentObject} {i : TaskId Slot}
    (hc : UpdateCall ctx name c) (hs : S.exec s c = (r, s')) (ho : s.agents name = some o) :
    s'.agents name = some (Write.applyAll o (Write.of name (.call i c r : Label Slot)).toList) := by
  cases hc with
  | read =>
    cases hs
    exact ho
  | patch st =>
    simp only [Server.exec, ho] at hs
    cases hs
    rw [Write.of, if_pos rfl, requestedState_statePatch]
    exact Cluster.setAgent_same ..
  | operator hname hc =>
    subst hname
    cases hc with
    | report patch =>
      simp only [Server.exec, ho] at hs
      cases hs
      rw [Write.of, if_pos rfl]
      exact Cluster.setAgent_same ..
    | read k =>
      cases hs
      exact ho
    | sleep secs =>
      cases hs
      exact ho
    | create k =>
      rw [Server.agents_of_create hs]
      exact ho
    | deletePod =>
      rw [Server.agents_of_delete hs]
      exact ho

theorem kubelet_agents {s s' : Cluster} (h : Kubelet s s') : s'.agents = s.agents := by
  cases h <;> rfl

variable [DecidableEq Slot]

theorem agent_step {w w' : World Slot} {l : Label Slot} {o : AgentObject}
    (htasks : w.TasksIn fun _ => UpdateCall ctx name)
    (hs : Pool.Step (Updating ctx name) (Answers S.exec) Kubelet w l w')
    (ho : w.state.agents name = some o) :
    w'.state.agents name = some (Write.applyAll o (Write.of name l).toList) := by
  cases hs with
  | spawn _ _ => exact ho
  | call hp hserve => exact agent_call (htasks _ _ hp).1 hserve ho
  | exit _ => exact ho
  | env he =>
    show _ = some o
    rw [← ho, ← kubelet_agents he]

/-- The stored Agent after a run is the one its writes make. -/
theorem agent_of_run {w w' : World Slot} {o : AgentObject} {tr : List (World Slot × Label Slot)}
    (hrun : Run (Pool.Step (Updating ctx name) (Answers S.exec) Kubelet) w tr w')
    (htasks : w.TasksIn fun _ => UpdateCall ctx name) (ho : w.state.agents name = some o) :
    w'.state.agents name = some (Write.applyAll o (writes name tr)) := by
  induction hrun with
  | nil => exact ho
  | snoc hr hs ih =>
    have htasks' := hr.invariant
      (fun _ _ _ ht hstep => Pool.tasks_step (fun _ _ => updating_calls) ht hstep) htasks
    rw [writes_snoc, Write.applyAll_append]
    exact agent_step htasks' hs ih

/-! ## Who asked -/

/-- The request that asks for a state. -/
def stateRequest (name : String) : Api.AgentState → Api.Request
  | .running => .start name
  | .stopped => .stop name

/-- Every patch of the Agent asks for the state of the request its task was last started for. -/
def PatchesAsRequested (name : String) (tr : List (World Slot × Label Slot)) : Prop :=
  ∀ front v i patch r back, tr = front ++ (v, .call i (.patchAgent name patch) r) :: back →
    ∃ st start clock,
      Pool.started i front = some (requestTask (stateRequest name st) start clock) ∧
      requestedState patch = some st

/-- The call patches nothing, or the Agent into this state. -/
def PatchesInto (st : Api.AgentState) (c : Call) : Prop :=
  ∀ n patch, c = .patchAgent n patch → patch = Api.statePatch (stateText st)

theorem patchesInto_request (name : String) (st : Api.AgentState) (start : Api.Instant)
    (clock : List Api.Instant) :
    (requestTask (stateRequest name st) start clock).AllCalls (PatchesInto st) := by
  have hread : PatchesInto st (.getAgent name) := fun n patch h => by cases h
  have hpatch : PatchesInto st (.patchAgent name (Api.statePatch (stateText st))) :=
    fun n patch h => by cases h; rfl
  cases st with
  | running => exact requestTask_calls hread (patchState_calls _ hread hpatch) start clock
  | stopped => exact requestTask_calls hread (patchState_calls _ hread hpatch) start clock

theorem patches_as_requested {s : Cluster} {w : World Slot} {tr : List (World Slot × Label Slot)}
    (hrun : Run (Pool.Step (Updating ctx name) (Answers S.exec) Kubelet) (World.initial s) tr w) :
    PatchesAsRequested name tr := by
  rintro front v i patch r back rfl
  obtain ⟨p₀, hstarted, hspawn, hcalls⟩ := Pool.call_started (fun _ => rfl) hrun
  have hrequest : ∀ (st : Api.AgentState) (start : Api.Instant) (clock : List Api.Instant),
      p₀ = requestTask (stateRequest name st) start clock → ∃ st start clock,
        Pool.started i front = some (requestTask (stateRequest name st) start clock) ∧
        requestedState patch = some st := by
    rintro st start clock rfl
    refine ⟨st, start, clock, hstarted, ?_⟩
    rw [hcalls _ (patchesInto_request name st start clock) name patch rfl]
    exact requestedState_statePatch st
  cases hspawn with
  | start start clock n => exact hrequest .running start clock rfl
  | stop start clock n => exact hrequest .stopped start clock rfl
  | @reconcile agent slot hname =>
    have hcall : Operator.OperatorCall ctx agent (.patchAgent name patch) :=
      hcalls _ ((Operator.reconcile_calls ctx agent).bind fun _ => trivial)
    cases hcall

/-- Whatever the interleaving: every patch of a state is the one its request asks for, the spec of
the Agent is the original one in the state last asked for, for the decoders of both crates, and its
status is what the reports alone make of it. -/
theorem no_lost_update {s : Cluster} {o : AgentObject} {w : World Slot}
    {tr : List (World Slot × Label Slot)} (ho : s.agents name = some o)
    (hrun : Run (Pool.Step (Updating ctx name) (Answers S.exec) Kubelet) (World.initial s) tr w) :
    PatchesAsRequested name tr ∧
    ∃ o', w.state.agents name = some o' ∧ o'.metadata = o.metadata ∧
      o'.status = ((reports name tr).foldl AgentObject.patchStatus o).status ∧
      (∀ k, k ≠ "state" → o'.spec.get? k = o.spec.get? k) ∧
      ∀ spec, Api.AgentSpec.fromJson o.spec = some spec →
        let spec' := { spec with state := (lastState name tr).getD spec.state }
        Api.AgentSpec.fromJson o'.spec = some spec' ∧
          Operator.AgentSpec.fromJson o'.spec = some spec'.toOperator := by
  refine ⟨patches_as_requested hrun, ?_⟩
  refine ⟨_, agent_of_run hrun (World.initial_tasksIn _ s) ho, ?_, ?_, ?_, ?_⟩
  · exact Write.applyAll_metadata _ o
  · exact Write.applyAll_status _ o
  · intro k hk
    exact Write.applyAll_members _ o hk
  · intro spec hspec
    have hspec' := Write.applyAll_spec (writes name tr) hspec
    exact ⟨hspec', Operator.AgentSpec.fromJson_of_api hspec'⟩

end Runs

/-- A start, a stop and a reconcile run of one Agent, under way. -/
def sampleUpdating : World Unit :=
  let agent := Operator.Agent.sample "a" "uid-1" .running
  (((World.initial agent.alone).setProg (.api 0) (some (requestTask (.start "a") 0 []))).setProg
    (.api 1) (some (requestTask (.stop "a") 0 []))).setProg
    (.operator "a" ()) (some (reconcileTask {} agent))

/-- Both requests check the Agent before either patches it, and the report comes between the two
patches. -/
def sampleUpdateTurns : List (TaskId Unit) :=
  [.api 0, .api 1] ++ List.replicate 10 (.operator "a" ()) ++ [.api 0, .operator "a" (), .api 1]

theorem no_lost_update_stop :
    ∃ (tr : List (World Unit × Label Unit)) (w : World Unit) (o' : AgentObject) (patch : Json),
      Run (Pool.Step (Updating {} "a") (Answers Server.verbatim.exec) Kubelet)
        (World.initial (Operator.Agent.sample "a" "uid-1" .running).alone) tr w ∧
      writes "a" tr = [.state .running, .report patch, .state .stopped] ∧
      PatchesAsRequested "a" tr ∧ w.state.agents "a" = some o' ∧
      o'.status = (AgentObject.patchStatus ⟨{}, .null, none⟩ patch).status ∧
      Operator.AgentSpec.fromJson o'.spec =
        some { (Operator.Agent.sample "a" "uid-1" .running).spec with state := .stopped } := by
  let agent := Operator.Agent.sample "a" "uid-1" .running
  have hspec := Operator.crd_copies_agree.2.1 agent.spec
  have hspawned : Run (Pool.Step (Updating {} "a") (Answers Server.verbatim.exec) Kubelet)
      (World.initial agent.alone) _ sampleUpdating :=
    .snoc (.snoc (.snoc .nil (.spawn (i := (.api 0 : TaskId Unit)) rfl (.start 0 [] 0)))
      (.spawn (i := (.api 1 : TaskId Unit)) rfl (.stop 0 [] 1)))
      (.spawn (i := (.operator "a" () : TaskId Unit)) rfl (.reconcile () rfl))
  have hrun := hspawned.trans
    (Pool.run_schedule Server.verbatim.exec (fun _ _ => rfl) sampleUpdateTurns sampleUpdating)
  obtain ⟨hasked, o', ho', -, hstatus, -, hdecoded⟩ := no_lost_update (o := ⟨_, _, _⟩) rfl hrun
  exact ⟨_, _, o', _, hrun, rfl, hasked, ho', hstatus, (hdecoded _ hspec).2⟩

end System
end AgentHosting
