import Mathlib.Data.List.Chain
import AgentHosting.Lib.Periodic
import AgentHosting.Operator.Races
import AgentHosting.Operator.Settle

/-!
# AgentHosting.Operator.Healing

What the operator makes of an Agent in the long run. The controller repeats the run of every Agent,
after the time that the run or `error_policy` asks for, and pods are deleted gracefully: a run that
finds an outdated pod fails, and only a later one puts the new pod in its place.

* `Stage`            — how far a run has come, by a property of the pod that the nodes keep.
* `reconcile_orders_wp` — one run that is carried out leaves no pod that is neither right nor going.
* `reconcile_heals_wp`  — where nothing is in the way of the pod, it puts everything in place.
* `Timeline`         — the runs of one Agent, one after the other, as the controller repeats them.
* `healed_in_time`   — from whatever state, everything is in place after a bounded time.
-/

namespace AgentHosting
namespace Operator

open Kube Prog

/-! ## The pod -/

/-- The pod is as the Agent wants it, and not going away. -/
def Right (agent : Agent) (pod : Option Pod) : Prop :=
  if agent.spec.state = .stopped then pod = none
  else ∃ p, pod = some p ∧ p.metadata.deletionTimestamp = none ∧ podNeedsUpdate p agent = false

def Going (pod : Option Pod) : Prop := ∃ p, pod = some p ∧ p.metadata.deletionTimestamp.isSome

/-- The pod is right, or there is none in its way. -/
def Free (agent : Agent) (pod : Option Pod) : Prop := pod = none ∨ Right agent pod

def Ordered (agent : Agent) (pod : Option Pod) : Prop := Free agent pod ∨ Going pod

/-- A property of a pod that the nodes keep, whatever they report and whenever they finish. -/
structure NodeStable (P : Option Pod → Prop) : Prop where
  report : ∀ (p : Pod) nodeName status, P (some p) → P (some { p with
    spec := p.spec.map fun spec => { spec with nodeName := nodeName }
    status := status })
  finish : ∀ p : Pod, p.metadata.deletionTimestamp.isSome → P (some p) → P none

theorem podNeedsUpdate_report (agent : Agent) (p : Pod) (nodeName : Option String)
    (status : Option PodStatus) :
    podNeedsUpdate { p with
      spec := p.spec.map fun spec => { spec with nodeName := nodeName }
      status := status } agent = podNeedsUpdate p agent := by
  cases hspec : p.spec <;> simp [podNeedsUpdate, hspec]

theorem Right.stable (agent : Agent) : NodeStable (Right agent) := by
  refine ⟨fun p nodeName status h => ?_, fun p hgoing h => ?_⟩
  · unfold Right at h ⊢
    split at h
    · cases h
    · rename_i hstate
      obtain ⟨q, hq, hmark, hok⟩ := h
      obtain rfl := Option.some.inj hq
      rw [if_neg hstate]
      exact ⟨_, rfl, hmark, by rw [podNeedsUpdate_report]; exact hok⟩
  · unfold Right at h ⊢
    split at h
    · cases h
    · obtain ⟨q, hq, hmark, -⟩ := h
      obtain rfl := Option.some.inj hq
      rw [hmark] at hgoing
      cases hgoing

theorem Free.stable (agent : Agent) : NodeStable (Free agent) := by
  refine ⟨fun p nodeName status h => ?_, fun _ _ _ => .inl rfl⟩
  rcases h with h | h
  · cases h
  · exact .inr ((Right.stable agent).report p nodeName status h)

theorem Ordered.stable (agent : Agent) : NodeStable (Ordered agent) := by
  refine ⟨fun p nodeName status h => ?_, fun _ _ _ => .inl (.inl rfl)⟩
  rcases h with h | ⟨q, hq, hmark⟩
  · exact .inl ((Free.stable agent).report p nodeName status h)
  · obtain rfl := Option.some.inj hq
    exact .inr ⟨_, rfl, hmark⟩

theorem trivial_stable : NodeStable fun _ => True := ⟨fun _ _ _ _ => trivial, fun _ _ _ => trivial⟩

theorem NodeStable.kubelet {P : Option Pod → Prop} (hP : NodeStable P) {s s' : Cluster}
    (hs : Kubelet s s') {n : String} (h : P (s.objs .pod n)) : P (s'.objs .pod n) := by
  cases hs with
  | @finish m p hp hmark =>
    by_cases hn : n = m
    · subst hn
      rw [hp] at h
      rw [Cluster.set_same]
      exact hP.finish p hmark h
    · rwa [Cluster.set_other_name s .pod hn]
  | @report m p nodeName status hp =>
    by_cases hn : n = m
    · subst hn
      rw [hp] at h
      rw [Cluster.set_same]
      exact hP.report p nodeName status h
    · rwa [Cluster.set_other_name s .pod hn]

/-! ## How far a run has come -/

/-- The Agent is stored, these children are there, and the pod has the property. -/
structure Stage (agent : Agent) (kinds : List Kind) (P : Option Pod → Prop) (s : Cluster) :
    Prop where
  stored : (s.agents agent.nameAny).isSome
  children : ∀ k ∈ kinds, k ≠ .pod → (s.objs k (childName agent.nameAny k)).isSome
  pod : P (s.objs .pod (podName agent.nameAny))

/-- What the API server stores of the pod it is sent passes the drift check, and is not going. -/
structure StoresPod (S : Server) (agent : Agent) : Prop where
  upToDate : podNeedsUpdate (S.stored (k := .pod) (buildPod agent)) agent = false
  kept : (S.stored (k := .pod) (buildPod agent)).metadata.deletionTimestamp = none

section Stages

variable {S : Server} {agent : Agent} {kinds : List Kind} {P Q : Option Pod → Prop}
  {s s' : Cluster}

theorem Stage.imp (h : Stage agent kinds P s) (hpq : ∀ pod, P pod → Q pod) :
    Stage agent kinds Q s :=
  ⟨h.stored, h.children, hpq _ h.pod⟩

theorem Stage.kubelet (hP : NodeStable P) (h : Stage agent kinds P s) (hs : Kubelet s s') :
    Stage agent kinds P s' := by
  have hother : ∀ (m : String) (x : Option Pod) k, k ≠ .pod → ∀ n,
      (s.set .pod m x).objs k n = s.objs k n :=
    fun m x k hk n => Cluster.set_other_kind s hk m n x
  refine ⟨?_, fun k hmem hk => ?_, hP.kubelet hs h.pod⟩
  · cases hs <;> exact h.stored
  · have hthere := h.children k hmem hk
    cases hs with
    | finish _ _ => rwa [hother _ _ k hk]
    | report _ _ _ => rwa [hother _ _ k hk]

theorem Stage.star (hP : NodeStable P) (h : Stage agent kinds P s)
    (hs : Relation.ReflTransGen Kubelet s s') : Stage agent kinds P s' := by
  induction hs with
  | refl => exact h
  | tail _ hs ih => exact ih.kubelet hP hs

/-- A child of another kind than the pod is added. -/
theorem Stage.put {k : Kind} (hk : k ≠ .pod) (h : Stage agent kinds P s) (o : Obj k) :
    Stage agent (k :: kinds) P (s.set k (childName agent.nameAny k) (some o)) := by
  refine ⟨h.stored, fun k' hmem hk' => ?_, ?_⟩
  · by_cases hkk : k' = k
    · subst hkk
      rw [Cluster.set_same]
      rfl
    · rw [Cluster.set_other_kind s hkk]
      exact h.children k' ((List.mem_cons.mp hmem).resolve_left hkk) hk'
  · rw [Cluster.set_other_kind s (Ne.symm hk)]
    exact h.pod

theorem Stage.putPod (h : Stage agent kinds P s) {x : Option Pod} (hx : Q x) :
    Stage agent kinds Q (s.set .pod (podName agent.nameAny) x) := by
  refine ⟨h.stored, fun k hmem hk => ?_, ?_⟩
  · rw [Cluster.set_other_kind s hk]
    exact h.children k hmem hk
  · rw [Cluster.set_same]
    exact hx

theorem Stage.report (h : Stage agent kinds P s) (f : AgentObject → AgentObject) :
    Stage agent kinds P
      (s.setAgent agent.nameAny ((s.agents agent.nameAny).map f)) := by
  refine ⟨?_, h.children, h.pod⟩
  rw [Cluster.setAgent_same, Option.isSome_map]
  exact h.stored

theorem answers_create_free {k : Kind} {o : Obj k} {r : Answer (.create k o)}
    (hfree : s.objs k (objName o) = none) (h : Answers S.exec s (.create k o) r s') :
    r = .ok () ∧ s' = s.set k (objName o) (some (S.stored o)) := by
  simp only [Answers, Server.exec, hfree] at h
  obtain ⟨rfl, rfl⟩ := Prod.mk.inj h
  exact ⟨rfl, rfl⟩

theorem ensure_stage (ctx : Context) {k : Kind} (hk : k ≠ .pod) (hP : NodeStable P)
    (h : Stage agent kinds P s) :
    wp (Answers S.exec) Kubelet (fun _ r s' => r = .ok () ∧ Stage agent (k :: kinds) P s')
      (ensureExists k (childName agent.nameAny k) (build ctx agent k)).run s := by
  rw [ensureExists_run]
  intro s1 h1 r s2 hs2
  obtain ⟨rfl, rfl⟩ := answers_getOpt.mp hs2
  have hstage := h.star hP h1
  cases ho : s2.objs k (childName agent.nameAny k) with
  | some o =>
    refine fun s3 h3 => ⟨rfl, Stage.star hP ?_ h3⟩
    have hsame := hstage.put hk o
    rwa [← ho, Cluster.set_get] at hsame
  | none =>
    intro s3 h3 r s4 hs4 s5 h5
    -- the nodes create nothing, so the name is still free
    have hfree : s3.objs k (objName (build ctx agent k)) = none := by
      rw [objName_build, ← ho]
      clear h5 hs4 hs2 h1 hstage ho
      induction h3 with
      | refl => rfl
      | tail _ hs ih =>
        rw [← ih]
        cases hs <;> exact Cluster.set_other_kind _ hk _ _ _
    obtain ⟨rfl, rfl⟩ := answers_create_free hfree hs4
    rw [objName_build] at h5
    exact ⟨rfl, ((hstage.star hP h3).put hk _).star hP h5⟩

theorem updateStatus_stage (hP : NodeStable P) (h : Stage agent kinds P s) :
    wp (Answers S.exec) Kubelet (fun _ r s' => r = .ok () ∧ Stage agent kinds P s')
      (updateStatus agent).run s := by
  have hservice : ∀ (status : AgentStatus) {s : Cluster}, Stage agent kinds P s →
      wp (Answers S.exec) Kubelet (fun _ r s' => r = .ok () ∧ Stage agent kinds P s')
        (.call (.getOpt .service (serviceName agent.nameAny)) fun svc =>
          .call (.patchAgentStatus agent.nameAny (statusPatch (withNodePorts status svc))) .ret :
          Prog Call Answer (Except KubeError Unit)) s := by
    intro status s h s1 h1 svc s2 hs2 s3 h3 r s4 hs4 s5 h5
    obtain ⟨rfl, rfl⟩ := answers_getOpt.mp hs2
    have hstage := (h.star hP h1).star hP h3
    rw [Answers, Server.exec_patchAgentStatus, if_pos hstage.stored] at hs4
    obtain ⟨rfl, rfl⟩ := Prod.mk.inj hs4
    exact ⟨rfl, (hstage.report _).star hP h5⟩
  rw [updateStatus_run]
  by_cases hstate : agent.spec.state = .stopped
  · rw [if_pos hstate]
    exact hservice _ h
  · rw [if_neg hstate]
    intro s1 h1 r s2 hs2
    obtain ⟨rfl, rfl⟩ := answers_getOpt.mp hs2
    exact hservice _ (h.star hP h1)

/-! ## The pod step -/

theorem none_stable : NodeStable fun pod => pod = none := by
  refine ⟨fun p nodeName status h => ?_, fun p _ h => ?_⟩
  · cases h
  · cases h

def Leaving (pod : Option Pod) : Prop := pod = none ∨ Going pod

theorem Leaving.stable : NodeStable Leaving := by
  refine ⟨fun p nodeName status h => ?_, fun _ _ _ => .inl rfl⟩
  rcases h with h | ⟨q, hq, hmark⟩
  · cases h
  · obtain rfl := Option.some.inj hq
    exact .inr ⟨_, rfl, hmark⟩

theorem Leaving.ordered {pod : Option Pod} (h : Leaving pod) : Ordered agent pod :=
  h.imp .inl id

theorem leaving_remains (p : Pod) : Leaving (S.remains (k := .pod) p) := by
  rw [Server.remains]
  split
  · exact .inr ⟨_, rfl, rfl⟩
  · exact .inl rfl

theorem right_stored (hS : StoresPod S agent) (hstate : agent.spec.state ≠ .stopped) :
    Right agent (some (S.stored (k := .pod) (buildPod agent))) := by
  rw [Right, if_neg hstate]
  exact ⟨_, rfl, hS.kept, hS.upToDate⟩

/-- A delete leaves the pod gone or going, also when it finds none. -/
theorem delete_stage {r : Answer (.delete .pod (podName agent.nameAny))}
    (h : Stage agent kinds P s)
    (hs : Answers S.exec s (.delete .pod (podName agent.nameAny)) r s') :
    Stage agent kinds Leaving s' := by
  cases ho : s.objs .pod (podName agent.nameAny) with
  | none =>
    simp only [Answers, Server.exec, ho] at hs
    obtain ⟨rfl, rfl⟩ := Prod.mk.inj hs
    exact ⟨h.stored, h.children, .inl ho⟩
  | some p =>
    simp only [Answers, Server.exec, ho] at hs
    obtain ⟨rfl, rfl⟩ := Prod.mk.inj hs
    exact h.putPod (leaving_remains p)

theorem createPod_right (hS : StoresPod S agent) (hstate : agent.spec.state ≠ .stopped)
    (h : Stage agent kinds (fun pod => pod = none) s) :
    wp (Answers S.exec) Kubelet (fun _ r s' => r = .ok () ∧ Stage agent kinds (Right agent) s')
      (.call (.create .pod (buildPod agent)) .ret :
        Prog Call Answer (Except KubeError Unit)) s := by
  intro s1 h1 r s2 hs2 s3 h3
  have hstage := h.star none_stable h1
  obtain ⟨rfl, rfl⟩ := answers_create_free (k := .pod) hstage.pod hs2
  exact ⟨rfl, (hstage.putPod (right_stored hS hstate)).star (Right.stable agent) h3⟩

theorem createPod_ordered (hS : StoresPod S agent) (hstate : agent.spec.state ≠ .stopped)
    (h : Stage agent kinds Leaving s) :
    wp (Answers S.exec) Kubelet (fun _ _ s' => Stage agent kinds (Ordered agent) s')
      (.call (.create .pod (buildPod agent)) .ret :
        Prog Call Answer (Except KubeError Unit)) s := by
  intro s1 h1 r s2 hs2 s3 h3
  have hstage := h.star Leaving.stable h1
  cases ho : s1.objs .pod (podName agent.nameAny) with
  | none =>
    obtain ⟨rfl, rfl⟩ := answers_create_free (k := .pod) ho hs2
    have hright : Ordered agent (some (S.stored (k := .pod) (buildPod agent))) :=
      .inl (.inr (right_stored hS hstate))
    exact (hstage.putPod hright).star (Ordered.stable agent) h3
  | some p =>
    -- the old pod is still there, and the create fails
    have htaken : s1.objs .pod (objName (k := .pod) (buildPod agent)) = some p := ho
    simp only [Answers, Server.exec, htaken] at hs2
    obtain ⟨rfl, rfl⟩ := Prod.mk.inj hs2
    exact (hstage.imp fun _ => Leaving.ordered).star (Ordered.stable agent) h3

theorem podStep_heals (hS : StoresPod S agent) (h : Stage agent kinds (Free agent) s) :
    wp (Answers S.exec) Kubelet (fun _ r s' => r = .ok () ∧ Stage agent kinds (Right agent) s')
      (podStep agent) s := by
  rw [podStep]
  by_cases hstate : agent.spec.state = .stopped
  · rw [if_pos hstate, deletePodIfExists_run]
    intro s1 h1 r s2 hs2
    obtain ⟨rfl, rfl⟩ := answers_getOpt.mp hs2
    have hstage := h.star (Free.stable agent) h1
    have hnone : s2.objs .pod (podName agent.nameAny) = none := by
      rcases hstage.pod with hnone | hright
      · exact hnone
      · rwa [Right, if_pos hstate] at hright
    have hright : Stage agent kinds (Right agent) s2 := by
      refine ⟨hstage.stored, hstage.children, ?_⟩
      rw [Right, if_pos hstate]
      exact hnone
    rw [hnone]
    exact fun s3 h3 => ⟨rfl, hright.star (Right.stable agent) h3⟩
  · rw [if_neg hstate, reconcilePod_run]
    intro s1 h1 r s2 hs2
    obtain ⟨rfl, rfl⟩ := answers_getOpt.mp hs2
    have hstage := h.star (Free.stable agent) h1
    cases ho : s2.objs .pod (podName agent.nameAny) with
    | none => exact createPod_right hS hstate ⟨hstage.stored, hstage.children, ho⟩
    | some p =>
      have hright : Right agent (s2.objs .pod (podName agent.nameAny)) := by
        refine hstage.pod.resolve_left fun hnone => ?_
        rw [ho] at hnone
        cases hnone
      have hok : podNeedsUpdate p agent = false := by
        rw [Right, if_neg hstate, ho] at hright
        obtain ⟨q, hq, -, hok⟩ := hright
        rwa [← Option.some.inj hq] at hok
      simp only [hok, if_false, Bool.false_eq_true]
      have hkept : Stage agent kinds (Right agent) s2 := ⟨hstage.stored, hstage.children, hright⟩
      exact fun s3 h3 => ⟨rfl, hkept.star (Right.stable agent) h3⟩

theorem podStep_orders (hS : StoresPod S agent) (h : Stage agent kinds (fun _ => True) s) :
    wp (Answers S.exec) Kubelet (fun _ _ s' => Stage agent kinds (Ordered agent) s')
      (podStep agent) s := by
  have hleft : ∀ {s : Cluster} (r : Except KubeError Unit), Stage agent kinds Leaving s →
      wp (Answers S.exec) Kubelet (fun _ _ s' => Stage agent kinds (Ordered agent) s')
        (.ret r : Prog Call Answer (Except KubeError Unit)) s :=
    fun r h s1 h1 => (h.star Leaving.stable h1).imp fun _ => Leaving.ordered
  rw [podStep]
  by_cases hstate : agent.spec.state = .stopped
  · rw [if_pos hstate, deletePodIfExists_run]
    intro s1 h1 r s2 hs2
    obtain ⟨rfl, rfl⟩ := answers_getOpt.mp hs2
    have hstage := h.star trivial_stable h1
    cases ho : s2.objs .pod (podName agent.nameAny) with
    | none => exact hleft _ ⟨hstage.stored, hstage.children, .inl ho⟩
    | some p =>
      intro s3 h3 r s4 hs4
      exact hleft _ (delete_stage (hstage.star trivial_stable h3) hs4)
  · rw [if_neg hstate, reconcilePod_run]
    intro s1 h1 r s2 hs2
    obtain ⟨rfl, rfl⟩ := answers_getOpt.mp hs2
    have hstage := h.star trivial_stable h1
    cases ho : s2.objs .pod (podName agent.nameAny) with
    | none => exact createPod_ordered hS hstate ⟨hstage.stored, hstage.children, .inl ho⟩
    | some p =>
      by_cases hneed : podNeedsUpdate p agent
      · simp only [hneed, if_true]
        intro s3 h3 r s4 hs4
        have hleaving := delete_stage (hstage.star trivial_stable h3) hs4
        rcases r with e | ⟨⟩
        · exact hleft _ hleaving
        · intro s5 h5 u s6 hs6
          obtain rfl := answers_sleep.mp hs6
          exact createPod_ordered hS hstate (hleaving.star Leaving.stable h5)
      · simp only [hneed, if_false, Bool.false_eq_true]
        have hordered : Ordered agent (s2.objs .pod (podName agent.nameAny)) := by
          rw [ho]
          cases hmark : p.metadata.deletionTimestamp with
          | some t => exact .inr ⟨p, rfl, by rw [hmark]; rfl⟩
          | none =>
            refine .inl (.inr ?_)
            rw [Right, if_neg hstate]
            exact ⟨p, rfl, hmark, by simpa using hneed⟩
        have hkept : Stage agent kinds (Ordered agent) s2 :=
          ⟨hstage.stored, hstage.children, hordered⟩
        exact fun s3 h3 => hkept.star (Ordered.stable agent) h3

/-! ## The run -/

/-- All children are in place, and the pod is right. -/
abbrev Healthy (agent : Agent) (s : Cluster) : Prop :=
  Stage agent [.service, .netpol, .pvc] (Right agent) s

theorem reconcile_heals_wp (ctx : Context) (hS : StoresPod S agent)
    (h : Stage agent [] (Free agent) s) :
    wp (Answers S.exec) Kubelet (fun _ r s' => r = .ok ⟨30⟩ ∧ Healthy agent s')
      (reconcile ctx agent).run s := by
  have hright := Right.stable agent
  rw [reconcile_run]
  refine wp_andThen (wp_mono (ensure_stage ctx (k := .pvc) (by decide) (Free.stable agent) h) ?_)
  rintro - _ s1 ⟨rfl, h1⟩
  refine wp_andThen (wp_mono (podStep_heals hS h1) ?_)
  rintro - _ s2 ⟨rfl, h2⟩
  refine wp_andThen (wp_mono (ensure_stage ctx (k := .netpol) (by decide) hright h2) ?_)
  rintro - _ s3 ⟨rfl, h3⟩
  refine wp_andThen (wp_mono (ensure_stage ctx (k := .service) (by decide) hright h3) ?_)
  rintro - _ s4 ⟨rfl, h4⟩
  refine wp_andThen (wp_mono (updateStatus_stage hright h4) ?_)
  rintro - _ s5 ⟨rfl, h5⟩
  exact fun s6 h6 => ⟨rfl, h5.star hright h6⟩

theorem Stage.none {kinds : List Kind} (h : Stage agent kinds P s) : Stage agent [] P s :=
  ⟨h.stored, fun _ hk => (by cases hk), h.pod⟩

theorem reconcile_orders_wp (ctx : Context) (hS : StoresPod S agent)
    (h : Stage agent [] (fun _ => True) s) :
    wp (Answers S.exec) Kubelet (fun _ _ s' => Stage agent [] (Ordered agent) s')
      (reconcile ctx agent).run s := by
  have hordered := Ordered.stable agent
  -- whatever a later step returns, the pod stays in order
  have herror : ∀ {kinds : List Kind} {s : Cluster} {r : Except KubeError Action},
      Stage agent kinds (Ordered agent) s → ∀ s', Relation.ReflTransGen Kubelet s s' →
        Stage agent [] (Ordered agent) s' :=
    fun h s' hs => (h.star hordered hs).none
  rw [reconcile_run]
  refine wp_andThen (wp_mono (ensure_stage ctx (k := .pvc) (by decide) trivial_stable h) ?_)
  rintro - _ s1 ⟨rfl, h1⟩
  refine wp_andThen (wp_mono (podStep_orders hS h1) ?_)
  rintro - (e | ⟨⟩) s2 h2
  · exact herror (r := .error e) h2
  refine wp_andThen (wp_mono (ensure_stage ctx (k := .netpol) (by decide) hordered h2) ?_)
  rintro - _ s3 ⟨rfl, h3⟩
  refine wp_andThen (wp_mono (ensure_stage ctx (k := .service) (by decide) hordered h3) ?_)
  rintro - _ s4 ⟨rfl, h4⟩
  refine wp_andThen (wp_mono (updateStatus_stage hordered h4) ?_)
  rintro - _ s5 ⟨rfl, h5⟩
  exact herror (r := .ok ⟨30⟩) h5

end Stages

/-! ## Turns -/

/-- One run of the controller for an Agent: when it was, what it found, left and returned. -/
structure Turn where
  start : Nat
  stop : Nat
  before : Cluster
  after : Cluster
  result : Except KubeError Action

/-- How long the controller may wait for the next run. -/
def requeueSecs : Except KubeError Action → Nat
  | .ok action => action.requeueSecs
  | .error e => (errorPolicy e).requeueSecs

def Turn.timing : Periodic.Timing Turn := ⟨Turn.start, Turn.stop, fun r => requeueSecs r.result⟩

theorem reconcile_requeues (ctx : Context) (agent : Agent) :
    (reconcile ctx agent).run.Returns fun r => requeueSecs r ≤ 30 := by
  have herror : ∀ e : KubeError, requeueSecs (.error e) ≤ 30 := fun e => by
    show 15 ≤ 30
    decide
  rw [reconcile_run]
  refine returns_andThen _ herror fun _ => returns_andThen _ herror fun _ => ?_
  refine returns_andThen _ herror fun _ => returns_andThen _ herror fun _ => ?_
  exact returns_andThen _ herror fun _ => Nat.le_refl 30

/-- The turns of one Agent. Up to `quiet` anything may happen, in them and between them; from then
on every call is carried out and only the nodes are at work, which finish a deletion within `grace`
seconds. -/
structure Timeline (S : Server) (ctx : Context) (agent : Agent) (limit grace quiet : Nat)
    (turns : List Turn) : Prop where
  repeats : Periodic.Repeats Turn.timing limit turns
  ran : ∀ r ∈ turns, ∃ (serves : Cluster → (c : Call) → Answer c → Cluster → Prop)
    (env : Cluster → Cluster → Prop) (copy : Agent) (tr : List (Event Cluster Call Answer)),
    Exec serves env (reconcile ctx copy).run r.before tr r.result r.after
  served : ∀ r ∈ turns, quiet ≤ r.start → (r.before.agents agent.nameAny).isSome ∧
    ∃ tr, Exec (Answers S.exec) Kubelet (reconcile ctx agent).run r.before tr r.result r.after
  between : turns.IsChain fun r r' =>
    quiet ≤ r.start → Relation.ReflTransGen Kubelet r.after r'.before
  finishes : ∀ r ∈ turns, ∀ r' ∈ turns, quiet ≤ r.start → r.stop + grace ≤ r'.start →
    Going (r.after.objs .pod (podName agent.nameAny)) →
    ¬ Going (r'.before.objs .pod (podName agent.nameAny))

namespace Timeline

variable {S : Server} {ctx : Context} {agent : Agent} {limit grace quiet : Nat}

theorem of_append {front turns : List Turn}
    (h : Timeline S ctx agent limit grace quiet (front ++ turns)) :
    Timeline S ctx agent limit grace quiet turns where
  repeats := h.repeats.of_append
  ran := fun r hr => h.ran r (List.mem_append_right _ hr)
  served := fun r hr => h.served r (List.mem_append_right _ hr)
  between := h.between.right_of_append
  finishes := fun r hr r' hr' =>
    h.finishes r (List.mem_append_right _ hr) r' (List.mem_append_right _ hr')

theorem requeues {turns : List Turn} (h : Timeline S ctx agent limit grace quiet turns) :
    ∀ r ∈ turns, Turn.timing.pause r ≤ 30 := by
  intro r hr
  obtain ⟨serves, env, copy, tr, hrun⟩ := h.ran r hr
  exact exec_returns (B := fun r => requeueSecs r ≤ 30) hrun (reconcile_requeues ctx copy)

/-- What the nodes keep and every quiet turn passes on holds before and after all later turns. -/
theorem passes {J : Cluster → Prop}
    (hnodes : ∀ s s', J s → Relation.ReflTransGen Kubelet s s' → J s')
    (hturn : ∀ s r s' tr, J s → (s.agents agent.nameAny).isSome →
      Exec (Answers S.exec) Kubelet (reconcile ctx agent).run s tr r s' → J s') {r : Turn}
    {back : List Turn} (h : Timeline S ctx agent limit grace quiet (r :: back))
    (hquiet : quiet ≤ r.start) (hr : J r.after) : ∀ u ∈ back, J u.before := by
  induction back generalizing r with
  | nil => simp
  | cons u back ih =>
    have hlasts := h.repeats.lasts.1
    have hnext := h.repeats.stop_le u List.mem_cons_self
    have hu : quiet ≤ u.start := hquiet.trans (hlasts.trans hnext)
    have hbefore : J u.before :=
      hnodes _ _ hr ((List.isChain_cons_cons.mp h.between).1 hquiet)
    obtain ⟨hstored, tr, hrun⟩ := h.served u (List.mem_cons_of_mem _ List.mem_cons_self) hu
    have htail : Timeline S ctx agent limit grace quiet ([r] ++ u :: back) := h
    intro v hv
    rcases List.mem_cons.mp hv with rfl | hv
    · exact hbefore
    · exact ih htail.of_append hu (hturn _ _ _ _ hbefore hstored hrun) v hv

/-- Once the pod is in order, a turn that finds it no more on its way out puts everything in place,
and every turn after it finds everything in place. -/
theorem stays_healthy (hS : StoresPod S agent) {r : Turn} {back : List Turn}
    (h : Timeline S ctx agent limit grace quiet (r :: back)) (hquiet : quiet ≤ r.start)
    (hfree : Stage agent [] (Free agent) r.before) :
    ∀ u ∈ back, Healthy agent u.before ∧ u.result = .ok ⟨30⟩ ∧ Healthy agent u.after := by
  have hheals : ∀ s r s' tr, Stage agent [] (Free agent) s →
      Exec (Answers S.exec) Kubelet (reconcile ctx agent).run s tr r s' →
      r = .ok ⟨30⟩ ∧ Healthy agent s' :=
    fun s r s' tr hs hrun => exec_wp hrun (reconcile_heals_wp ctx hS hs)
  have hfreed : ∀ {s : Cluster}, Healthy agent s → Stage agent [] (Free agent) s :=
    fun hs => hs.none.imp fun _ => .inr
  obtain ⟨-, tr, hrun⟩ := h.served r List.mem_cons_self hquiet
  have hbefore := h.passes (J := Healthy agent) (fun _ _ hs => hs.star (Right.stable agent))
    (fun s r s' tr hs _ hrun => (hheals s r s' tr (hfreed hs) hrun).2) hquiet
    (hheals _ _ _ _ hfree hrun).2
  intro u hu
  have hstart : quiet ≤ u.start :=
    hquiet.trans (h.repeats.lasts.1.trans (h.repeats.stop_le u hu))
  obtain ⟨-, tr, hrun⟩ := h.served u (List.mem_cons_of_mem _ hu) hstart
  exact ⟨hbefore u hu, hheals _ _ _ _ (hfreed (hbefore u hu)) hrun⟩

end Timeline

/-- Whatever happened before: once every call is carried out and only the nodes are at work besides,
everything is in place after four runs, two pauses and one deletion, and stays so; every run from
then on returns Ok. -/
theorem healed_in_time {S : Server} {ctx : Context} {agent : Agent} {limit grace quiet : Nat}
    (hS : StoresPod S agent) (hgrace : 0 < grace) {r₀ : Turn} {turns : List Turn}
    (h : Timeline S ctx agent limit grace quiet (r₀ :: turns)) (hbefore : r₀.start ≤ quiet)
    {r : Turn} (hr : r ∈ r₀ :: turns) (hlate : quiet + grace + 60 + 4 * limit < r.start) :
    Healthy agent r.before ∧ r.result = .ok ⟨30⟩ ∧ Healthy agent r.after := by
  -- the first turn from `quiet` on puts the pod in order
  obtain ⟨front, r₁, back, hsplit, hfront, hr₁, hr₁'⟩ :=
    h.repeats.first_from h.requeues hbefore ⟨r, hr, by show quiet ≤ r.start; omega⟩
  rw [hsplit] at h hr
  have h₁ := h.of_append
  have hlasts := h₁.repeats.lasts
  replace hr₁ : quiet ≤ r₁.start := hr₁
  replace hr₁' : r₁.start ≤ quiet + limit + 30 := hr₁'
  replace hlasts : r₁.start ≤ r₁.stop ∧ r₁.stop ≤ r₁.start + limit := hlasts
  have hr_back : r ∈ r₁ :: back := by
    refine (List.mem_append.mp hr).resolve_left fun hmem => ?_
    have hearly : r.start < quiet := hfront r hmem
    omega
  obtain ⟨hstored, tr, hrun⟩ := h₁.served r₁ List.mem_cons_self hr₁
  have hordered : Stage agent [] (Ordered agent) r₁.after :=
    exec_wp hrun (reconcile_orders_wp ctx hS ⟨hstored, fun _ hk => (by cases hk), trivial⟩)
  -- the first turn after the deletions that were under way then finds nothing in its way
  obtain ⟨front₂, r₂, back₂, hsplit₂, hfront₂, hr₂, hr₂'⟩ :=
    h₁.repeats.first_from (a := r₁.stop + grace) h₁.requeues
      (by show r₁.start ≤ r₁.stop + grace; omega)
      ⟨r, hr_back, by show r₁.stop + grace ≤ r.start; omega⟩
  replace hr₂ : r₁.stop + grace ≤ r₂.start := hr₂
  replace hr₂' : r₂.start ≤ r₁.stop + grace + limit + 30 := hr₂'
  have hr₂_back : r₂ ∈ back := by
    have hmem : r₂ ∈ r₁ :: back := by rw [hsplit₂]; simp
    refine (List.mem_cons.mp hmem).resolve_left fun heq => ?_
    subst heq
    omega
  have hpod : Stage agent [] (Ordered agent) r₂.before :=
    h₁.passes (J := Stage agent [] (Ordered agent))
      (fun _ _ hs => hs.star (Ordered.stable agent))
      (fun s r s' tr hs _ hrun => exec_wp hrun (reconcile_orders_wp ctx hS
        (hs.imp fun _ _ => trivial)))
      hr₁ hordered r₂ hr₂_back
  have hfree : Stage agent [] (Free agent) r₂.before := by
    by_cases hgoing : Going (r₁.after.objs .pod (podName agent.nameAny))
    · have hover := h₁.finishes r₁ List.mem_cons_self r₂ (List.mem_cons_of_mem _ hr₂_back) hr₁ hr₂
        hgoing
      exact ⟨hpod.stored, hpod.children, hpod.pod.resolve_right hover⟩
    · exact h₁.passes (J := Stage agent [] (Free agent))
        (fun _ _ hs => hs.star (Free.stable agent))
        (fun s r s' tr hs _ hrun =>
          (exec_wp hrun (reconcile_heals_wp ctx hS hs)).2.none.imp fun _ => .inr)
        hr₁ ⟨hordered.stored, hordered.children, hordered.pod.resolve_right hgoing⟩ r₂ hr₂_back
  rw [hsplit₂] at h₁ hr_back
  have hr_back₂ : r ∈ back₂ := by
    rcases List.mem_append.mp hr_back with hmem | hmem
    · have hearly : r.start < r₁.stop + grace := hfront₂ r hmem
      omega
    · refine (List.mem_cons.mp hmem).resolve_left fun heq => ?_
      subst heq
      omega
  exact (h₁.of_append).stays_healthy hS (by omega) hfree r hr_back₂

/-! ## A rollout -/

/-- A turn of two seconds, carried out by a server that deletes gracefully. -/
def sampleTurn (start : Nat) (before : Cluster) : Turn :=
  let out := (reconcile {} (Agent.sample "a" "uid-1" .running)).run.run Server.sampleGraceful.exec
    before
  ⟨start, start + 2, before, out.2, out.1⟩

/-- The outdated pod is deleted in the first turn, and replaced in the second. -/
def sampleRollout : List Turn :=
  let r₀ := sampleTurn 0 (sampleWithPod .running samplePod)
  let r₁ := sampleTurn 17 (r₀.after.set .pod "agent-a" none)
  let r₂ := sampleTurn 49 r₁.after
  let r₃ := sampleTurn 81 r₂.after
  [r₀, r₁, r₂, r₃, sampleTurn 113 r₃.after]

theorem sampleRollout_timeline : Timeline Server.sampleGraceful {}
    (Agent.sample "a" "uid-1" .running) 2 30 0 sampleRollout := by
  have hcalm : ∀ r ∈ sampleRollout, ¬ Going (r.before.objs .pod "agent-a") := by
    intro r hr
    simp only [sampleRollout, List.mem_cons, List.not_mem_nil, or_false] at hr
    rcases hr with rfl | rfl | rfl | rfl | rfl
    all_goals
      rintro ⟨p, hp, hmark⟩
      cases hp
      try cases hmark
  have hserved : ∀ r ∈ sampleRollout, (r.before.agents "a").isSome ∧
      ∃ tr, Exec (Answers Server.sampleGraceful.exec) Kubelet
        (reconcile {} (Agent.sample "a" "uid-1" .running)).run r.before tr r.result r.after := by
    intro r hr
    simp only [sampleRollout, List.mem_cons, List.not_mem_nil, or_false] at hr
    rcases hr with rfl | rfl | rfl | rfl | rfl
    all_goals exact ⟨rfl, _, run_exec _ _⟩
  refine ⟨?_, fun r hr => ?_, fun r hr _ => hserved r hr, ?_, fun r _ r' hr' _ _ _ => hcalm r' hr'⟩
  · have hlasts : ∀ start s, Turn.timing.Lasts 2 (sampleTurn start s) :=
      fun start s => ⟨Nat.le_add_right .., Nat.le_refl _⟩
    refine .cons (hlasts _ _) ⟨by decide, Nat.le_refl 17⟩ ?_
    refine .cons (hlasts _ _) ⟨by decide, Nat.le_refl 49⟩ ?_
    refine .cons (hlasts _ _) ⟨by decide, Nat.le_refl 81⟩ ?_
    exact .cons (hlasts _ _) ⟨by decide, Nat.le_refl 113⟩ (.single (hlasts _ _))
  · obtain ⟨-, tr, hrun⟩ := hserved r hr
    exact ⟨_, _, _, tr, hrun⟩
  · refine .cons_cons (fun _ => .single (.finish rfl rfl)) ?_
    exact .cons_cons (fun _ => .refl) (.cons_cons (fun _ => .refl)
      (.cons_cons (fun _ => .refl) (.singleton _)))

theorem healed_in_time_rollout : ∃ r ∈ sampleRollout, r.start = 113 ∧
    Healthy (Agent.sample "a" "uid-1" .running) r.before ∧ r.result = .ok ⟨30⟩ := by
  have hlast : ∃ r ∈ sampleRollout, r.start = 113 := ⟨_, List.mem_of_getElem? (i := 4) rfl, rfl⟩
  obtain ⟨r, hr, hstart⟩ := hlast
  have hhealed := healed_in_time ⟨podNeedsUpdate_buildPod _, rfl⟩ (by decide) sampleRollout_timeline
    (Nat.le_refl 0) hr (by rw [hstart]; decide)
  exact ⟨r, hr, hstart, hhealed.1, hhealed.2.1⟩

end Operator
end AgentHosting
