import AgentHosting.System.PodDeletion

/-!
# AgentHosting.System.Adoption

Whose the children of an Agent are when a run for it returns Ok. The operator goes by names, so a
child left behind by an earlier Agent of the same name, which the garbage collector has not reached
yet, is taken over.

* `Stamped`             — an API server that gives every new Agent a uid nothing else has.
* `Collect`             — the garbage collector.
* `reconciled_children` — a run that returns Ok while only the operator runs leaves children of its
  own Agent and children it found, these unchanged.
* `adopted_pvc`         — an instance created after another of its name mounts the other's volume.
-/

namespace AgentHosting
namespace System

open Kube Prog

/-! ## Uids and garbage -/

/-- No object of the cluster has the uid, as its own or as its owner's. -/
def Unused (s : Cluster) (uid : String) : Prop :=
  (∀ n o, s.agents n = some o → o.metadata.uid ≠ some uid) ∧
    ∀ k n (o : Obj k), s.objs k n = some o → ¬ OwnedBy uid (metadata o)

def stamping (S : Server) (uid : String) : Server :=
  { S with storedAgent := fun o => { o with metadata := { o.metadata with uid := some uid } } }

/-- A call served with failures; a new Agent gets a fresh uid. -/
inductive Stamped (S : Server) (s : Cluster) : (c : Call) → Answer c → Cluster → Prop where
  | createAgent {o : AgentObject} {r : Answer (.createAgent o)} {s' : Cluster} (uid : String) :
      Unused s uid → (stamping S uid).Faulty s (.createAgent o) r s' →
      Stamped S s (.createAgent o) r s'
  | other {c : Call} {r : Answer c} {s' : Cluster} : (∀ o, c ≠ .createAgent o) →
      S.Faulty s c r s' → Stamped S s c r s'

/-- The garbage collector removes an object that has owners, none of which is left. -/
inductive Collect : Cluster → Cluster → Prop where
  | remove {s : Cluster} {k : Kind} {n : String} {o : Obj k} : s.objs k n = some o →
      (metadata o).ownerReferences.getD [] ≠ [] →
      (∀ ref ∈ (metadata o).ownerReferences.getD [], ∀ m a, s.agents m = some a →
        a.metadata.uid ≠ some ref.uid) →
      Collect s (s.set k n none)

/-! ## Where the children of a run come from -/

section Origin

variable {S : Server} {ctx : Operator.Context} {agent : Operator.Agent}

/-- A child is one that was there, or one the run built; or it is a pod the run found to need an
update. -/
def Origin (S : Server) (ctx : Operator.Context) (agent : Operator.Agent)
    (c₀ c : Operator.Children) : Prop :=
  (∀ k o, k ≠ .pod → c.objs k = some o →
    c₀.objs k = some o ∨ o = S.stored (Operator.build ctx agent k)) ∧
  ∀ p, c.objs .pod = some p → c₀.objs .pod = some p ∨
    p = S.stored (k := .pod) (Operator.buildPod agent) ∨ Operator.podNeedsUpdate p agent = true

theorem remains_needsUpdate {p q : Pod} (hp : Operator.podNeedsUpdate p agent = true)
    (hq : S.remains (k := .pod) p = some q) : Operator.podNeedsUpdate q agent = true := by
  simp only [Server.remains] at hq
  split at hq
  · rw [← Option.some.inj hq]
    exact hp
  · cases hq

theorem Origin.put {c₀ c : Operator.Children} (h : Origin S ctx agent c₀ c) {k : Kind}
    {o : Option (Obj k)} (hk : k ≠ .pod)
    (ho : ∀ x, o = some x → x = S.stored (Operator.build ctx agent k)) :
    Origin S ctx agent c₀ (c.put k o) := by
  refine ⟨fun k' x hk' hx => ?_, fun p hp => ?_⟩
  · by_cases hkk : k' = k
    · subst hkk
      rw [Operator.Children.put_same] at hx
      exact .inr (ho x hx)
    · rw [Operator.Children.put_other _ hkk] at hx
      exact h.1 k' x hk' hx
  · rw [Operator.Children.put_other _ (Ne.symm hk)] at hp
    exact h.2 p hp

theorem Origin.putPod {c₀ c : Operator.Children} (h : Origin S ctx agent c₀ c) {o : Option Pod}
    (ho : ∀ p, o = some p → p = S.stored (k := .pod) (Operator.buildPod agent) ∨
      Operator.podNeedsUpdate p agent = true) :
    Origin S ctx agent c₀ (c.put .pod o) := by
  refine ⟨fun k x hk hx => ?_, fun p hp => ?_⟩
  · rw [Operator.Children.put_other _ hk] at hx
    exact h.1 k x hk hx
  · rw [Operator.Children.put_same] at hp
    exact .inr (ho p hp)

theorem Origin.advance (hstate : agent.spec.state ≠ .stopped) {c₀ c c' : Operator.Children}
    (h : Origin S ctx agent c₀ c) (hs : Operator.Advance S ctx agent c c') :
    Origin S ctx agent c₀ c' := by
  cases hs with
  | ensure hk _ => exact h.put hk fun x hx => (Option.some.inj hx).symm
  | createPod _ _ => exact h.putPod fun p hp => .inl (Option.some.inj hp).symm
  | dropStale _ _ hneed => exact h.putPod fun p hp => .inr (remains_needsUpdate hneed hp)
  | dropStopped hstopped _ => exact (hstate hstopped).elim
  | report _ _ _ => exact h

theorem origin_advances (hstate : agent.spec.state ≠ .stopped) {c₀ c : Operator.Children}
    (h : Relation.ReflTransGen (Operator.Advance S ctx agent) c₀ c) : Origin S ctx agent c₀ c := by
  induction h with
  | refl => exact ⟨fun k o _ ho => .inl ho, fun p hp => .inl hp⟩
  | tail _ hs ih => exact ih.advance hstate hs

/-- A child of the Agent's own, or one that was there and is as it was; a pod that was there then
matches the drift check. -/
def OwnOrFound (agent : Operator.Agent) (c₀ c : Operator.Children) : Prop :=
  (∀ k o, c.objs k = some o →
    OwnedBy (agent.metadata.uid.getD "") (metadata o) ∨ c₀.objs k = some o) ∧
  ∀ p, c.objs .pod = some p → OwnedBy (agent.metadata.uid.getD "") p.metadata ∨
    Operator.podNeedsUpdate p agent = false

theorem ownedBy_build (ctx : Operator.Context) (agent : Operator.Agent) (k : Kind) :
    OwnedBy (agent.metadata.uid.getD "") (metadata (Operator.build ctx agent k)) := by
  rw [Operator.metadata_build]
  exact ⟨Operator.ownerReference agent, by simp [Operator.childMeta], rfl⟩

theorem ownOrFound_of_origin {graceful : Bool} {deletedAt : String}
    (hstate : agent.spec.state ≠ .stopped) {c₀ c : Operator.Children}
    (h : Origin (Server.plain graceful deletedAt) ctx agent c₀ c)
    (hdone : Operator.Done (Server.plain graceful deletedAt) agent c) : OwnOrFound agent c₀ c := by
  have hbuilt : OwnedBy (agent.metadata.uid.getD "") (Operator.buildPod agent).metadata :=
    ownedBy_build ctx agent .pod
  have hpod := hdone.pod
  rw [Operator.PodReady, if_neg hstate] at hpod
  obtain ⟨q, hq, hready⟩ := hpod
  refine ⟨fun k o ho => ?_, fun p hp => ?_⟩
  · by_cases hk : k = .pod
    · subst hk
      obtain rfl : q = o := Option.some.inj (hq.symm.trans ho)
      rcases hready with hok | hnew
      · rcases h.2 q hq with hfound | hnew | hneed
        · exact .inr hfound
        · rw [hnew]
          exact .inl hbuilt
        · rw [hok] at hneed
          cases hneed
      · rw [hnew]
        exact .inl hbuilt
    · rcases h.1 k o hk ho with hfound | hnew
      · exact .inr hfound
      · rw [hnew]
        exact .inl (ownedBy_build ctx agent k)
  · obtain rfl : q = p := Option.some.inj (hq.symm.trans hp)
    rcases hready with hok | hnew
    · exact .inr hok
    · rw [hnew]
      exact .inl hbuilt

end Origin

/-! ## Runs -/

section Runs

variable {ctx : Operator.Context} {graceful : Bool} {deletedAt : String} {agent : Operator.Agent}

/-- The operator, with one run of each name at a time, the API server and the garbage collector. -/
abbrev InstanceStep (ctx : Operator.Context) (graceful : Bool) (deletedAt : String) :
    World Unit → Label Unit → World Unit → Prop :=
  Pool.Step (Spawns ctx) (Stamped (Server.plain graceful deletedAt)) Collect

/-- The run for the Agent called `name` goes on, and only the operator makes calls. -/
structure During (name : String) (l : Label Unit) : Prop where
  notStarted : ∀ p, l ≠ .spawn (.operator name ()) p
  notEnded : ∀ a, l ≠ .exit (.operator name ()) a
  noRequest : ∀ n c r, l ≠ .call (.api n) c r
  noCollection : l ≠ .env

theorem stamped_operatorCall {S : Server} {c : Call} (hc : Operator.OperatorCall ctx agent c)
    {s s' : Cluster} {r : Answer c} (h : Stamped S s c r s') : S.Faulty s c r s' := by
  cases h with
  | createAgent uid _ _ => cases hc
  | other _ h => exact h

def KeepsChildren (name : String) (s s' : Cluster) : Prop :=
  Operator.view s' name = Operator.view s name

theorem reconcileTask_wp (ctx : Operator.Context) (hstate : agent.spec.state ≠ .stopped)
    (s : Cluster) :
    wp (Stamped (Server.plain graceful deletedAt)) (KeepsChildren agent.nameAny)
      (fun _ out s' => ∀ a, out = .reconciled (.ok a) → OwnOrFound agent
        (Operator.view s agent.nameAny) (Operator.view s' agent.nameAny))
      (reconcileTask ctx agent) s := by
  have henv : Operator.KeepsView (KeepsChildren agent.nameAny) agent.nameAny := fun _ _ h => h
  refine wp_bind.mpr (wp_mono (wp_serves (fun s c r s' hc hs => stamped_operatorCall hc hs)
    (Operator.reconcile_calls ctx agent) (Operator.reconcile_wp ctx henv s)) ?_)
  intro tr r s1 hpost s2 h2 a ha
  cases ha
  rw [henv.star h2]
  exact ownOrFound_of_origin hstate (origin_advances hstate hpost.moves) (hpost.done a rfl)

theorem keepsChildren_of_during {w w' : World Unit} {l : Label Unit}
    (htasks : w.TasksIn (TaskCall ctx)) (hl : During agent.nameAny l)
    (hown : ∀ c r, l ≠ .call (.operator agent.nameAny ()) c r)
    (hs : InstanceStep ctx graceful deletedAt w l w') :
    KeepsChildren agent.nameAny w.state w'.state := by
  cases hs with
  | spawn _ _ => exact rfl
  | exit _ => exact rfl
  | env _ => exact (hl.noCollection rfl).elim
  | @call i c k r s' hi hserve =>
    cases i with
    | api n => exact (hl.noRequest n c r rfl).elim
    | operator name slot =>
      have hne : agent.nameAny ≠ name := by
        rintro rfl
        exact hown c r rfl
      obtain ⟨other, rfl, hc⟩ := (htasks _ _ hi).1
      exact (hc.sameElsewhere (stamped_operatorCall hc hserve)).view_eq hne

/-- A run for a running Agent that returns Ok, while only the operator makes calls: each child of
the Agent carries its uid, or was there when the run began and is as it was then. -/
theorem reconciled_children {w₀ w₁ w : World Unit} {tr₀ tr : List (World Unit × Label Unit)}
    (hstate : agent.spec.state ≠ .stopped)
    (h₀ : Run (InstanceStep ctx graceful deletedAt) (World.initial Cluster.empty) tr₀ w₀)
    (hstart : InstanceStep ctx graceful deletedAt w₀
      (.spawn (.operator agent.nameAny ()) (reconcileTask ctx agent)) w₁)
    (h : Run (InstanceStep ctx graceful deletedAt) w₁ tr w)
    (honly : ∀ e ∈ tr, During agent.nameAny e.2) {a : Operator.Action}
    (hok : w.progs (.operator agent.nameAny ()) = some (.ret (.reconciled (.ok a)))) :
    OwnOrFound agent (Operator.view w₀.state agent.nameAny)
      (Operator.view w.state agent.nameAny) := by
  have hstep : ∀ (v : World Unit) l v', v.TasksIn (TaskCall ctx) →
      InstanceStep ctx graceful deletedAt v l v' → v'.TasksIn (TaskCall ctx) :=
    fun _ _ _ hi hs => Pool.tasks_step (A := TaskCall ctx) (fun _ _ => spawns_calls) hi hs
  have htasks₁ : w₁.TasksIn (TaskCall ctx) :=
    (h₀.trans (.single hstart)).invariant hstep (World.initial_tasksIn _ _)
  have htasks := h.invariant_at hstep htasks₁
  have hprog : w₁.progs (.operator agent.nameAny ()) = some (reconcileTask ctx agent) ∧
      w₁.state = w₀.state := by
    cases hstart with
    | spawn _ _ => exact ⟨Pool.setProg_same .., rfl⟩
  obtain ⟨p, hp, hwp⟩ := Pool.wp_run h (i := .operator agent.nameAny ())
    (fun e he => ⟨(honly e he).notStarted, (honly e he).notEnded⟩)
    (fun v hv v' hown hs => .single
      (keepsChildren_of_during (htasks v hv) (honly v hv) hown hs))
    hprog.1 (reconcileTask_wp ctx hstate w₁.state)
  rw [hok] at hp
  cases hp
  rw [← hprog.2]
  exact hwp _ .refl a rfl

end Runs

/-! ## A volume that changes hands -/

structure UidsIn (us : List String) (s : Cluster) : Prop where
  agents : ∀ n o, s.agents n = some o → ∃ u ∈ us, o.metadata.uid = some u
  owners : ∀ k n (o : Obj k), s.objs k n = some o →
    ∀ ref ∈ (metadata o).ownerReferences.getD [], ref.uid ∈ us

namespace UidsIn

variable {us : List String} {s : Cluster}

theorem empty : UidsIn us Cluster.empty := by
  refine ⟨fun n o h => ?_, fun k n o h => ?_⟩
  · cases h
  · cases h

theorem unused (h : UidsIn us s) {uid : String} (hu : uid ∉ us) : Unused s uid := by
  refine ⟨fun n o ho heq => ?_, fun k n o ho ⟨ref, href, heq⟩ => ?_⟩
  · obtain ⟨u, hmem, hu'⟩ := h.agents n o ho
    obtain rfl := Option.some.inj (heq.symm.trans hu')
    exact hu hmem
  · subst heq
    exact hu (h.owners k n o ho ref href)

theorem setAgent (h : UidsIn us s) (name : String) {a : Option AgentObject}
    (ha : ∀ o, a = some o → ∃ u ∈ us, o.metadata.uid = some u) :
    UidsIn us (s.setAgent name a) := by
  refine ⟨fun n o ho => ?_, h.owners⟩
  by_cases hn : n = name
  · subst hn
    rw [Cluster.setAgent_same] at ho
    exact ha o ho
  · rw [Cluster.setAgent_other _ hn] at ho
    exact h.agents n o ho

theorem setChild (h : UidsIn us s) (ctx : Operator.Context) {agent : Operator.Agent}
    (hu : agent.metadata.uid.getD "" ∈ us) (k : Kind) (n : String) :
    UidsIn us (s.set k n (some (Operator.build ctx agent k))) := by
  refine ⟨h.agents, fun k' n' o ho => ?_⟩
  rcases Cluster.set_objs_cases s k k' n n' (some (Operator.build ctx agent k)) with
    ⟨rfl, -, hset⟩ | hset
  · obtain rfl := Option.some.inj (hset.symm.trans ho)
    rw [Operator.metadata_build]
    intro ref href
    obtain rfl : ref = Operator.ownerReference agent := by simpa [Operator.childMeta] using href
    exact hu
  · exact h.owners k' n' o (hset.symm.trans ho)

end UidsIn

theorem stamping_exec (S : Server) (uid : String) (s : Cluster) {c : Call}
    (hc : ∀ o, c ≠ .createAgent o) : (stamping S uid).exec s c = S.exec s c := by
  cases c with
  | createAgent o => exact (hc o rfl).elim
  | _ => rfl

/-- The calls of a program are served by a fixed uid where it is free whenever it is needed. -/
theorem stamped_served (uid : String) (p : Prog Call Answer Outcome) (s : Cluster) (n : Nat)
    (hfresh : ∀ m < n, Unused (p.after (stamping Server.verbatim uid).exec m s).2 uid ∨
      ∀ o, (p.after (stamping Server.verbatim uid).exec m s).1.next ≠ some (.createAgent o)) :
    ∀ m < n, ∀ c, (p.after (stamping Server.verbatim uid).exec m s).1.next = some c →
      Stamped Server.verbatim (p.after (stamping Server.verbatim uid).exec m s).2 c
        ((stamping Server.verbatim uid).exec
          (p.after (stamping Server.verbatim uid).exec m s).2 c).1
        ((stamping Server.verbatim uid).exec
          (p.after (stamping Server.verbatim uid).exec m s).2 c).2 := by
  intro m hm c hc
  by_cases hcreate : ∃ o, c = .createAgent o
  · obtain ⟨o, rfl⟩ := hcreate
    rcases hfresh m hm with hunused | hother
    · exact .createAgent uid hunused .served
    · exact (hother o hc).elim
  · have hother : ∀ o, c ≠ .createAgent o := fun o h => hcreate ⟨o, h⟩
    rw [stamping_exec _ _ _ hother]
    exact .other hother .served

theorem reconcileTask_fresh (ctx : Operator.Context) (uid : String) (agent : Operator.Agent)
    (s : Cluster) (m : Nat) (o : AgentObject) :
    ((reconcileTask ctx agent).after (stamping Server.verbatim uid).exec m s).1.next ≠
      some (.createAgent o) := by
  intro hnext
  have hcalls : (reconcileTask ctx agent).AllCalls (Operator.OperatorCall ctx agent) :=
    (Operator.reconcile_calls ctx agent).bind fun _ => trivial
  cases allCalls_next (allCalls_after _ hcalls m _) hnext

section Sample

/-- The two instances called `a`, one after the other. -/
def firstAgent : Operator.Agent := .sample "a" "uid-1" .running

def secondAgent : Operator.Agent := .sample "a" "uid-2" .running

def sampleRequest : Api.Request :=
  .create "" { image := "agent:v1", name := some "a", securityProfile := some "restricted" }

def execFirst := (stamping Server.verbatim "uid-1").exec

def execSecond := (stamping Server.verbatim "uid-2").exec

/-- The first instance is created, -/
def worldCreated : World Unit :=
  (World.initial Cluster.empty).advanced execFirst (.api 0) (requestTask sampleRequest 0 []) 2

/-- gets its children, -/
def worldReconciled : World Unit :=
  worldCreated.advanced execFirst (.operator "a" ()) (reconcileTask {} firstAgent) 11

/-- is deleted, -/
def worldDeleted : World Unit :=
  (worldReconciled.setProg (.operator "a" ()) none).advanced execSecond (.api 1)
    (requestTask (.delete "a") 0 []) 2

/-- and created anew, before its children are collected. -/
def worldRecreated : World Unit :=
  worldDeleted.advanced execSecond (.api 2) (requestTask sampleRequest 0 []) 2

theorem uidsIn_deleted : UidsIn ["uid-1"] worldDeleted.state := by
  have hchild : firstAgent.metadata.uid.getD "" ∈ ["uid-1"] := by decide
  have hstored : ∀ o : AgentObject, o.metadata.uid = some "uid-1" →
      ∀ o', some o = some o' → ∃ u ∈ ["uid-1"], o'.metadata.uid = some u := by
    intro o ho o' heq
    obtain rfl := Option.some.inj heq
    exact ⟨"uid-1", by simp, ho⟩
  have hcreated : UidsIn ["uid-1"] worldCreated.state := UidsIn.empty.setAgent "a" (hstored _ rfl)
  have hpvc := hcreated.setChild {} hchild .pvc "agent-a-data"
  have hpod := hpvc.setChild {} hchild .pod "agent-a"
  have hnetpol := hpod.setChild {} hchild .netpol "agent-a-isolation"
  have hservice := hnetpol.setChild {} hchild .service "agent-a"
  have hreconciled : UidsIn ["uid-1"] worldReconciled.state :=
    hservice.setAgent "a" (hstored _ rfl)
  exact hreconciled.setAgent "a" fun o ho => by cases ho

theorem run_recreated : ∃ tr, Run (InstanceStep {} false "") (World.initial Cluster.empty) tr
    worldRecreated := by
  obtain ⟨tr₁, h₁, -⟩ := Pool.run_advanced Collect _
    (w := (World.initial Cluster.empty : World Unit)) rfl
    (.request sampleRequest 0 [] 0 : Spawns {} _ _) 2
    (stamped_served "uid-1" _ _ 2 fun m hm => .inl (by
      have hempty : UidsIn [] Cluster.empty := .empty
      match m, hm with
      | 0, _ => exact hempty.unused (by simp)
      | 1, _ => exact hempty.unused (by simp)))
  obtain ⟨tr₂, h₂, -⟩ := Pool.run_advanced Collect _ (w := worldCreated) rfl
    (.reconcile firstAgent () : Spawns {} _ _) 11
    (stamped_served "uid-1" _ _ 11 fun m _ => .inr (reconcileTask_fresh _ _ _ _ m))
  have h₃ : InstanceStep {} false "" worldReconciled _ (worldReconciled.setProg (.operator "a" ())
      none) := .exit (a := .reconciled (.ok ⟨30⟩)) rfl
  obtain ⟨tr₄, h₄, -⟩ := Pool.run_advanced Collect _
    (w := worldReconciled.setProg (.operator "a" ()) none) rfl
    (.request (.delete "a") 0 [] 1 : Spawns {} _ _) 2
    (stamped_served "uid-2" _ _ 2 fun m hm => .inr fun o hnext => by
      match m, hm with
      | 0, _ => cases hnext
      | 1, _ => cases hnext)
  obtain ⟨tr₅, h₅, -⟩ := Pool.run_advanced Collect _ (w := worldDeleted) rfl
    (.request sampleRequest 0 [] 2 : Spawns {} _ _) 2
    (stamped_served "uid-2" _ _ 2 fun m hm => .inl (by
      match m, hm with
      | 0, _ => exact uidsIn_deleted.unused (by decide)
      | 1, _ => exact uidsIn_deleted.unused (by decide)))
  exact ⟨_, (((h₁.trans h₂).trans (.single h₃)).trans h₄).trans h₅⟩

/-- The run for the second instance, to its end. -/
def worldAdopted : World Unit :=
  worldRecreated.advanced execSecond (.operator "a" ()) (reconcileTask {} secondAgent) 7

theorem run_adopted : ∃ tr, Run (InstanceStep {} false "")
    (worldRecreated.setProg (.operator "a" ()) (some (reconcileTask {} secondAgent))) tr
      worldAdopted ∧ ∀ e ∈ tr, During "a" e.2 := by
  obtain ⟨tr, hrun, hcalls⟩ := Pool.run_after (Spawns {}) Collect execSecond
    (i := .operator "a" ()) 7 (reconcileTask {} secondAgent) worldRecreated
    (stamped_served "uid-2" _ _ 7 fun m _ => .inr (reconcileTask_fresh _ _ _ _ m))
  refine ⟨tr, hrun, fun e he => ?_⟩
  obtain ⟨m, -, -, c, r, -, hcall⟩ := hcalls e he
  rw [hcall]
  constructor
  · intro p h
    cases h
  · intro a h
    cases h
  · intro n c r h
    cases h
  · intro h
    cases h

theorem reconciled_children_adopted :
    OwnOrFound secondAgent (Operator.view worldRecreated.state "a")
      (Operator.view worldAdopted.state "a") := by
  obtain ⟨tr₀, h₀⟩ := run_recreated
  obtain ⟨tr, h, honly⟩ := run_adopted
  exact reconciled_children (a := ⟨30⟩) (by decide) h₀ (.spawn rfl (.reconcile secondAgent ())) h
    honly rfl

/-- The second instance is reconciled with success, nothing else going on, and its PVC is that of
the first. -/
theorem adopted_pvc :
    ¬ ∀ (agent : Operator.Agent) (w₀ w₁ w : World Unit) tr₀ tr (a : Operator.Action),
      agent.spec.state = .running →
      Run (InstanceStep {} false "") (World.initial Cluster.empty) tr₀ w₀ →
      InstanceStep {} false "" w₀
        (.spawn (.operator agent.nameAny ()) (reconcileTask {} agent)) w₁ →
      Run (InstanceStep {} false "") w₁ tr w → (∀ e ∈ tr, During agent.nameAny e.2) →
      w.progs (.operator agent.nameAny ()) = some (.ret (.reconciled (.ok a))) →
      ∀ k (o : Obj k), w.state.objs k (Operator.childName agent.nameAny k) = some o →
        OwnedBy (agent.metadata.uid.getD "") (metadata o) := by
  intro h
  obtain ⟨tr₀, h₀⟩ := run_recreated
  obtain ⟨tr, hrun, honly⟩ := run_adopted
  obtain ⟨ref, href, huid⟩ := h secondAgent worldRecreated _ worldAdopted tr₀ tr ⟨30⟩ rfl h₀
    (.spawn rfl (.reconcile secondAgent ())) hrun honly rfl .pvc
    (Operator.build {} firstAgent .pvc) rfl
  rw [Operator.metadata_build] at href
  obtain rfl : ref = Operator.ownerReference firstAgent := by
    simpa [Operator.childMeta] using href
  exact absurd huid (by decide)

end Sample

end System
end AgentHosting
