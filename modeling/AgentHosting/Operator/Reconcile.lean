import AgentHosting.Operator.Controller

/-!
# AgentHosting.Operator.Reconcile

What a reconcile run does to the children of its Agent, whatever fails and whoever else runs.

* `Children`, `Advance` — the abstract model: the four children of one Agent and the Agent as
  stored, and the moves a run may make on them.
* `reconcile_advances`  — the simulation: as long as nobody else touches these children, a run makes
  only such moves, and a run that returns Ok leaves every child in place (`Done`).
* `reconcile_calls`     — the calls a run can make at all, whoever else runs.

The `_run` lemmas give each function of the controller as its tree of calls.
-/

namespace AgentHosting
namespace Operator

open Kube Prog

/-! ## The controller as trees of calls -/

theorem ensureExists_run (k : Kind) (name : String) (desired : Obj k) :
    (ensureExists k name desired).run =
      .call (.getOpt k name) fun
        | .ok (some _) => .ret (.ok ())
        | .ok none => .call (.create k desired) .ret
        | .error e => .ret (.error e) := by
  show Prog.call _ _ = _
  congr 1
  funext r
  rcases r with e | _ | o <;> rfl

theorem reconcilePod_run (agent : Agent) :
    (reconcilePod agent).run =
      .call (.getOpt .pod (podName agent.nameAny)) fun
        | .ok (some existing) =>
          if podNeedsUpdate existing agent then
            .call (.delete .pod (podName agent.nameAny)) fun
              | .ok () => .call (.sleep 2) fun _ => .call (.create .pod (buildPod agent)) .ret
              | .error e => .ret (.error e)
          else .ret (.ok ())
        | .ok none => .call (.create .pod (buildPod agent)) .ret
        | .error e => .ret (.error e) := by
  show Prog.call _ _ = _
  congr 1
  funext r
  rcases r with e | _ | existing
  · rfl
  · rfl
  · show ExceptT.run (if podNeedsUpdate existing agent then _ else _) =
      if podNeedsUpdate existing agent then _ else _
    by_cases h : podNeedsUpdate existing agent
    · rw [if_pos h, if_pos h]
      show Prog.call _ _ = _
      congr 1
      funext r
      rcases r with e | ⟨⟩ <;> rfl
    · rw [if_neg h, if_neg h]
      rfl

theorem deletePodIfExists_run (name : String) :
    (deletePodIfExists name).run =
      .call (.getOpt .pod (podName name)) fun
        | .ok (some _) => .call (.delete .pod (podName name)) .ret
        | .ok none => .ret (.ok ())
        | .error e => .ret (.error e) := by
  show Prog.call _ _ = _
  congr 1
  funext r
  rcases r with e | _ | o <;> rfl

theorem updateStatus_run (agent : Agent) :
    (updateStatus agent).run =
      if agent.spec.state = .stopped then
        .call (.getOpt .service (serviceName agent.nameAny)) fun svc =>
          .call (.patchAgentStatus agent.nameAny (statusPatch (withNodePorts stoppedStatus svc)))
            .ret
      else
        .call (.getOpt .pod (podName agent.nameAny)) fun
          | .ok pod =>
            .call (.getOpt .service (serviceName agent.nameAny)) fun svc =>
              .call (.patchAgentStatus agent.nameAny
                (statusPatch (withNodePorts (podStatus pod) svc))) .ret
          | .error e => .ret (.error e) := by
  unfold updateStatus
  split
  · rfl
  · show Prog.call _ _ = _
    congr 1
    funext r
    rcases r with e | pod <;> rfl

def podStep (agent : Agent) : Prog Call Answer (Except KubeError Unit) :=
  if agent.spec.state = .stopped then (deletePodIfExists agent.nameAny).run
  else (reconcilePod agent).run

theorem reconcile_run (ctx : Context) (agent : Agent) :
    (reconcile ctx agent).run =
      andThen (reconcilePvc ctx agent).run fun _ =>
      andThen (podStep agent) fun _ =>
      andThen (reconcileNetworkPolicy agent).run fun _ =>
      andThen (reconcileService agent).run fun _ =>
      andThen (updateStatus agent).run fun _ => .ret (.ok ⟨30⟩) := by
  simp only [reconcile, podStep]
  split <;> simp only [Prog.exceptT_bind] <;> rfl

/-- The controller does not read the status of the Agent it is given. -/
theorem reconcile_status (ctx : Context) (agent : Agent) (status : Option AgentStatus) :
    reconcile ctx { agent with status := status } = reconcile ctx agent := rfl

/-! ## The children of an Agent -/

def childName (name : String) : Kind → String
  | .pvc => pvcName name
  | .pod => podName name
  | .netpol => netpolName name
  | .service => serviceName name

def build (ctx : Context) (agent : Agent) : (k : Kind) → Obj k
  | .pvc => buildPvc ctx.storageClass agent
  | .pod => buildPod agent
  | .netpol => buildNetworkPolicy agent
  | .service => buildService agent

@[simp] theorem objName_build (ctx : Context) (agent : Agent) (k : Kind) :
    objName (build ctx agent k) = childName agent.nameAny k := by
  cases k <;> rfl

@[simp] theorem metadata_build (ctx : Context) (agent : Agent) (k : Kind) :
    metadata (build ctx agent k) = childMeta agent (childName agent.nameAny k) := by
  cases k <;> rfl

theorem childName_injective {k : Kind} {a b : String} (h : childName a k = childName b k) :
    a = b := by
  cases k with
  | pvc => exact pvcName_injective h
  | pod => exact podName_injective h
  | netpol => exact netpolName_injective h
  | service => exact serviceName_injective h

/-- The children of one Agent, and the Agent itself as stored. -/
@[ext] structure Children where
  objs : (k : Kind) → Option (Obj k)
  agent : Option AgentObject

namespace Children

def put (c : Children) (k : Kind) (o : Option (Obj k)) : Children :=
  { c with objs := Function.update c.objs k o }

@[simp] theorem put_same (c : Children) (k : Kind) (o : Option (Obj k)) :
    (c.put k o).objs k = o := by
  simp [put]

theorem put_other (c : Children) {k k' : Kind} (h : k' ≠ k) (o : Option (Obj k)) :
    (c.put k o).objs k' = c.objs k' := by
  simp [put, h]

@[simp] theorem put_agent (c : Children) (k : Kind) (o : Option (Obj k)) :
    (c.put k o).agent = c.agent := rfl

end Children

def view (s : Cluster) (name : String) : Children :=
  ⟨fun k => s.objs k (childName name k), s.agents name⟩

theorem view_set (s : Cluster) (name : String) (k : Kind) (o : Option (Obj k)) :
    view (s.set k (childName name k) o) name = (view s name).put k o := by
  refine Children.ext ?_ rfl
  funext k'
  by_cases h : k' = k
  · subst h; simp [view]
  · rw [Children.put_other _ h]
    exact Cluster.set_other_kind s h _ _ o

theorem view_setAgent (s : Cluster) (name : String) (o : Option AgentObject) :
    view (s.setAgent name o) name = { view s name with agent := o } := by
  simp [view]

/-- Two clusters that agree on everything but the children of one Agent and that Agent. -/
structure SameElsewhere (name : String) (s s' : Cluster) : Prop where
  objs : ∀ k n, n ≠ childName name k → s'.objs k n = s.objs k n
  agents : ∀ n, n ≠ name → s'.agents n = s.agents n

namespace SameElsewhere

theorem refl (name : String) (s : Cluster) : SameElsewhere name s s :=
  ⟨fun _ _ _ => rfl, fun _ _ => rfl⟩

theorem trans {name : String} {s s1 s2 : Cluster} (h₁ : SameElsewhere name s s1)
    (h₂ : SameElsewhere name s1 s2) : SameElsewhere name s s2 :=
  ⟨fun k n hn => (h₂.objs k n hn).trans (h₁.objs k n hn),
    fun n hn => (h₂.agents n hn).trans (h₁.agents n hn)⟩

theorem set (s : Cluster) (name : String) (k : Kind) (o : Option (Obj k)) :
    SameElsewhere name s (s.set k (childName name k) o) := by
  refine ⟨fun k' n hn => ?_, fun _ _ => rfl⟩
  by_cases hk : k' = k
  · subst hk
    exact Cluster.set_other_name s k' hn o
  · exact Cluster.set_other_kind s hk _ _ o

theorem setAgent (s : Cluster) (name : String) (o : Option AgentObject) :
    SameElsewhere name s (s.setAgent name o) :=
  ⟨fun _ _ _ => rfl, fun _ hn => Cluster.setAgent_other s hn o⟩

theorem eq_of_view {name : String} {s s1 s2 : Cluster} (h₁ : SameElsewhere name s s1)
    (h₂ : SameElsewhere name s s2) (hv : view s1 name = view s2 name) : s1 = s2 := by
  refine Cluster.ext ?_ ?_
  · funext k n
    by_cases hn : n = childName name k
    · subst hn
      exact congrFun (congrArg Children.objs hv) k
    · rw [h₁.objs k n hn, h₂.objs k n hn]
  · funext n
    by_cases hn : n = name
    · subst hn
      exact congrArg Children.agent hv
    · rw [h₁.agents n hn, h₂.agents n hn]

theorem view_eq {name other : String} {s s' : Cluster} (h : SameElsewhere other s s')
    (hne : name ≠ other) : view s' name = view s name := by
  refine Children.ext ?_ (h.agents name hne)
  funext k
  exact h.objs k _ fun e => hne (childName_injective e)

end SameElsewhere

/-- The pod is as a run leaves it: deleted when the Agent is stopped (a graceful deletion may still
be going on), else up to date or just created. -/
def PodReady (S : Server) (agent : Agent) (pod : Option Pod) : Prop :=
  if agent.spec.state = .stopped then pod = none ∨ S.graceful = true
  else ∃ p, pod = some p ∧
    (podNeedsUpdate p agent = false ∨ p = S.stored (k := .pod) (buildPod agent))

/-- Every child is in place. -/
structure Done (S : Server) (agent : Agent) (c : Children) : Prop where
  present : ∀ k, k ≠ .pod → (c.objs k).isSome
  pod : PodReady S agent (c.objs .pod)

/-- The status before the node ports, from the desired state and the pod. -/
def baseStatus (agent : Agent) (pod : Option Pod) : AgentStatus :=
  if agent.spec.state = .stopped then stoppedStatus else podStatus pod

/-! ## The moves of a run -/

/-- One move on the children: create what is missing, delete a pod that must go, report. -/
inductive Advance (S : Server) (ctx : Context) (agent : Agent) : Children → Children → Prop where
  | ensure {c : Children} {k : Kind} : k ≠ .pod → c.objs k = none →
      Advance S ctx agent c (c.put k (some (S.stored (build ctx agent k))))
  | createPod {c : Children} : agent.spec.state ≠ .stopped → c.objs .pod = none →
      Advance S ctx agent c (c.put .pod (some (S.stored (k := .pod) (buildPod agent))))
  | dropStale {c : Children} {p : Pod} : agent.spec.state ≠ .stopped → c.objs .pod = some p →
      podNeedsUpdate p agent = true → Advance S ctx agent c (c.put .pod (S.remains (k := .pod) p))
  | dropStopped {c : Children} {p : Pod} : agent.spec.state = .stopped → c.objs .pod = some p →
      Advance S ctx agent c (c.put .pod (S.remains (k := .pod) p))
  | report {c : Children} {o : AgentObject} {svc : Except KubeError (Option Service)} :
      Done S agent c → c.agent = some o → (svc = .ok (c.objs .service) ∨ ∃ e, svc = .error e) →
      Advance S ctx agent c { c with agent := some (o.patchStatus
        (statusPatch (withNodePorts (baseStatus agent (c.objs .pod)) svc))) }

/-! ## The simulation -/

section Simulation

variable {S : Server} {env : Cluster → Cluster → Prop} {ctx : Context} {agent : Agent}

/-- Nobody else touches the children of the Agent. -/
def KeepsView (env : Cluster → Cluster → Prop) (name : String) : Prop :=
  ∀ s s', env s s' → view s' name = view s name

theorem KeepsView.star {name : String} (henv : KeepsView env name) {s s' : Cluster}
    (h : Relation.ReflTransGen env s s') : view s' name = view s name := by
  induction h with
  | refl => rfl
  | tail _ h ih => rw [henv _ _ h, ih]

/-- What a create-if-absent step guarantees: the child was there, or is the one just built. -/
structure EnsurePost (S : Server) (ctx : Context) (agent : Agent) (k : Kind) (c : Children)
    (r : Except KubeError Unit) (s' : Cluster) : Prop where
  effect : view s' agent.nameAny = c ∨
    c.objs k = none ∧ view s' agent.nameAny = c.put k (some (S.stored (build ctx agent k)))
  present : ∀ a, r = .ok a → ((view s' agent.nameAny).objs k).isSome

theorem EnsurePost.keep {k : Kind} {c : Children} {r : Except KubeError Unit} {s s' : Cluster}
    (henv : KeepsView env agent.nameAny) (h : EnsurePost S ctx agent k c r s)
    (hs : Relation.ReflTransGen env s s') : EnsurePost S ctx agent k c r s' :=
  ⟨by rw [henv.star hs]; exact h.effect, by rw [henv.star hs]; exact h.present⟩

theorem EnsurePost.moves {k : Kind} {c : Children} {r : Except KubeError Unit} {s' : Cluster}
    (h : EnsurePost S ctx agent k c r s') (hk : k ≠ .pod) :
    Relation.ReflTransGen (Advance S ctx agent) c (view s' agent.nameAny) := by
  rcases h.effect with he | ⟨hnone, he⟩
  · rw [he]
  · rw [he]
    exact .single (.ensure hk hnone)

theorem EnsurePost.frame {k : Kind} {c : Children} {r : Except KubeError Unit} {s' : Cluster}
    (h : EnsurePost S ctx agent k c r s') {k' : Kind} (hk : k' ≠ k) :
    (view s' agent.nameAny).objs k' = c.objs k' := by
  rcases h.effect with he | ⟨-, he⟩
  · rw [he]
  · rw [he, Children.put_other _ hk]

theorem ensure_wp {k : Kind} (ctx : Context) (henv : KeepsView env agent.nameAny) (s : Cluster) :
    wp S.Faulty env (fun _ r s' => EnsurePost S ctx agent k (view s agent.nameAny) r s')
      (ensureExists k (childName agent.nameAny k) (build ctx agent k)).run s := by
  rw [ensureExists_run]
  intro s1 h1 r s2 hs
  obtain ⟨rfl, hr⟩ := hs.getOpt
  have hv1 := henv.star h1
  rcases hr with rfl | ⟨e, rfl⟩
  · cases ho : s2.objs k (childName agent.nameAny k) with
    | some o =>
      have hthere : ((view s2 agent.nameAny).objs k).isSome := by
        rw [show (view s2 agent.nameAny).objs k = some o from ho]
        rfl
      exact fun s3 h3 => EnsurePost.keep henv ⟨.inl hv1, fun _ _ => hthere⟩ h3
    | none =>
      intro s3 h3 r s4 hs4 s5 h5
      have hv3 := (henv.star h3).trans hv1
      refine EnsurePost.keep henv ?_ h5
      rcases hs4.create with ⟨rfl, e, rfl⟩ | ⟨hnone, rfl⟩
      · exact ⟨.inl hv3, fun a ha => by cases ha⟩
      · rw [objName_build] at hnone ⊢
        have hmissing : (view s agent.nameAny).objs k = none := by
          rw [← hv3]
          exact hnone
        refine ⟨.inr ⟨hmissing, ?_⟩, fun _ _ => ?_⟩
        · rw [view_set, hv3]
        · rw [view_set, Children.put_same]
          rfl
  · exact fun s3 h3 => EnsurePost.keep henv ⟨.inl hv1, fun a ha => by cases ha⟩ h3

def PodMoves (S : Server) (ctx : Context) (agent : Agent) (c c' : Children) : Prop :=
  Relation.ReflTransGen (Advance S ctx agent) c c' ∧ (∀ k, k ≠ .pod → c'.objs k = c.objs k)

theorem PodMoves.refl (c : Children) : PodMoves S ctx agent c c := ⟨.refl, fun _ _ => rfl⟩

theorem PodMoves.put {c c' : Children} {o : Option Pod} (h : PodMoves S ctx agent c c')
    (hs : Advance S ctx agent c' (c'.put .pod o)) : PodMoves S ctx agent c (c'.put .pod o) :=
  ⟨h.1.tail hs, fun k hk => by rw [Children.put_other _ hk, h.2 k hk]⟩

def PodPost (S : Server) (ctx : Context) (agent : Agent) (c : Children)
    (r : Except KubeError Unit) (s' : Cluster) : Prop :=
  PodMoves S ctx agent c (view s' agent.nameAny) ∧
    ∀ a, r = .ok a → PodReady S agent ((view s' agent.nameAny).objs .pod)

theorem PodPost.error {c : Children} {e : KubeError} {s' : Cluster}
    (h : PodMoves S ctx agent c (view s' agent.nameAny)) :
    PodPost S ctx agent c (.error e) s' :=
  ⟨h, fun a ha => by cases ha⟩

theorem PodPost.keep {c : Children} {r : Except KubeError Unit} {s s' : Cluster}
    (henv : KeepsView env agent.nameAny) (h : PodPost S ctx agent c r s)
    (hs : Relation.ReflTransGen env s s') : PodPost S ctx agent c r s' := by
  simpa only [PodPost, henv.star hs] using h

theorem remains_pod (p : Pod) :
    S.remains (k := .pod) p = none ∨ S.graceful = true := by
  simp only [Server.remains]
  cases S.graceful <;> simp

theorem deletePodIfExists_wp (ctx : Context) (henv : KeepsView env agent.nameAny)
    (hstate : agent.spec.state = .stopped) (s : Cluster) :
    wp S.Faulty env (fun _ r s' => PodPost S ctx agent (view s agent.nameAny) r s')
      (deletePodIfExists agent.nameAny).run s := by
  rw [deletePodIfExists_run]
  intro s1 h1 r s2 hs
  obtain ⟨rfl, hr⟩ := hs.getOpt
  have hv1 := henv.star h1
  have hself : PodMoves S ctx agent (view s agent.nameAny) (view s2 agent.nameAny) := by
    rw [hv1]
    exact .refl _
  rcases hr with rfl | ⟨e, rfl⟩
  · cases ho : s2.objs .pod (podName agent.nameAny) with
    | none =>
      have habsent : PodReady S agent ((view s2 agent.nameAny).objs .pod) := by
        rw [PodReady, if_pos hstate]
        exact .inl ho
      exact fun s3 h3 => PodPost.keep henv ⟨hself, fun _ _ => habsent⟩ h3
    | some p =>
      intro s3 h3 r s4 hs4 s5 h5
      have hv3 := henv.star h3
      refine PodPost.keep henv ?_ h5
      rcases hs4.delete with ⟨rfl, e, rfl⟩ | ⟨p', hp', rfl⟩
      · exact .error (by rw [hv3]; exact hself)
      · have hv4 : view (s3.set .pod (podName agent.nameAny) (S.remains (k := .pod) p'))
            agent.nameAny = (view s2 agent.nameAny).put .pod (S.remains (k := .pod) p') := by
          rw [← hv3]
          exact view_set s3 agent.nameAny .pod _
        have hstored : (view s2 agent.nameAny).objs .pod = some p' := by
          rw [← hv3]
          exact hp'
        rw [PodPost, hv4]
        refine ⟨hself.put (.dropStopped hstate hstored), fun _ _ => ?_⟩
        rw [PodReady, if_pos hstate, Children.put_same]
        exact remains_pod p'
  · exact fun s3 h3 => PodPost.keep henv (.error hself) h3

theorem createPod_wp (ctx : Context) (henv : KeepsView env agent.nameAny)
    (hstate : agent.spec.state ≠ .stopped) {c : Children} {s : Cluster}
    (hc : PodMoves S ctx agent c (view s agent.nameAny)) :
    wp S.Faulty env (fun _ r s' => PodPost S ctx agent c r s')
      (.call (.create .pod (buildPod agent)) .ret) s := by
  intro s1 h1 r s2 hs s3 h3
  have hv1 := henv.star h1
  refine PodPost.keep henv ?_ h3
  rcases hs.create with ⟨rfl, e, rfl⟩ | ⟨hnone, rfl⟩
  · exact .error (by rw [hv1]; exact hc)
  · have hv2 : view (s1.set .pod (objName (k := .pod) (buildPod agent))
          (some (S.stored (k := .pod) (buildPod agent)))) agent.nameAny =
        (view s agent.nameAny).put .pod (some (S.stored (k := .pod) (buildPod agent))) := by
      rw [← hv1]
      exact view_set s1 agent.nameAny .pod _
    have hmissing : (view s agent.nameAny).objs .pod = none := by
      rw [← hv1]
      exact hnone
    rw [PodPost, hv2]
    refine ⟨hc.put (.createPod hstate hmissing), fun _ _ => ?_⟩
    rw [Children.put_same, PodReady, if_neg hstate]
    exact ⟨_, rfl, .inr rfl⟩

theorem reconcilePod_wp (ctx : Context) (henv : KeepsView env agent.nameAny)
    (hstate : agent.spec.state ≠ .stopped) (s : Cluster) :
    wp S.Faulty env (fun _ r s' => PodPost S ctx agent (view s agent.nameAny) r s')
      (reconcilePod agent).run s := by
  rw [reconcilePod_run]
  intro s1 h1 r s2 hs
  obtain ⟨rfl, hr⟩ := hs.getOpt
  have hv1 := henv.star h1
  have hself : PodMoves S ctx agent (view s agent.nameAny) (view s2 agent.nameAny) := by
    rw [hv1]
    exact .refl _
  rcases hr with rfl | ⟨e, rfl⟩
  · cases ho : s2.objs .pod (podName agent.nameAny) with
    | none => exact createPod_wp ctx henv hstate hself
    | some p =>
      have hp : (view s2 agent.nameAny).objs .pod = some p := ho
      by_cases hneed : podNeedsUpdate p agent
      · simp only [hneed, if_true]
        intro s3 h3 r s4 hs4
        have hv3 := henv.star h3
        rcases hs4.delete with ⟨rfl, e, rfl⟩ | ⟨p', hp', rfl⟩
        · exact fun s5 h5 => PodPost.keep henv (.error (by rw [hv3]; exact hself)) h5
        · obtain rfl : p' = p := by
            have hp3 : (view s3 agent.nameAny).objs .pod = some p := by rw [hv3]; exact hp
            exact Option.some.inj (Eq.trans (Eq.symm hp') hp3)
          have hv4 : view (s3.set .pod (podName agent.nameAny) (S.remains (k := .pod) p'))
              agent.nameAny = (view s2 agent.nameAny).put .pod (S.remains (k := .pod) p') := by
            rw [← hv3]
            exact view_set s3 agent.nameAny .pod _
          have hdropped := hself.put (.dropStale hstate hp hneed)
          rw [← hv4] at hdropped
          rcases r with e | ⟨⟩
          · exact fun s5 h5 => PodPost.keep henv (.error hdropped) h5
          · intro s5 h5 r s6 hs6
            obtain rfl := hs6.sleep
            exact createPod_wp ctx henv hstate (by rw [henv.star h5]; exact hdropped)
      · simp only [hneed, if_false, Bool.false_eq_true]
        have hready : PodReady S agent ((view s2 agent.nameAny).objs .pod) := by
          rw [PodReady, if_neg hstate]
          exact ⟨p, hp, .inl (by simpa using hneed)⟩
        exact fun s3 h3 => PodPost.keep henv ⟨hself, fun _ _ => hready⟩ h3
  · exact fun s3 h3 => PodPost.keep henv (.error hself) h3

/-- What the report guarantees: nothing changes but the stored status. -/
def ReportPost (S : Server) (ctx : Context) (agent : Agent) (c : Children) (s' : Cluster) : Prop :=
  Relation.ReflTransGen (Advance S ctx agent) c (view s' agent.nameAny) ∧
    (view s' agent.nameAny).objs = c.objs

theorem ReportPost.keep {c : Children} {s s' : Cluster} (henv : KeepsView env agent.nameAny)
    (h : ReportPost S ctx agent c s) (hs : Relation.ReflTransGen env s s') :
    ReportPost S ctx agent c s' := by
  simpa only [ReportPost, henv.star hs] using h

/-- The last two calls: the Service is read, and the status is patched with what was read. -/
theorem reportService_wp (ctx : Context) (henv : KeepsView env agent.nameAny) {s : Cluster}
    (hdone : Done S agent (view s agent.nameAny)) :
    wp S.Faulty env (fun _ _ s' => ReportPost S ctx agent (view s agent.nameAny) s')
      (.call (.getOpt .service (serviceName agent.nameAny)) fun svc =>
        .call (.patchAgentStatus agent.nameAny (statusPatch (withNodePorts
          (baseStatus agent ((view s agent.nameAny).objs .pod)) svc))) .ret :
        Prog Call Answer (Except KubeError Unit)) s := by
  intro s1 h1 svc s2 hs2 s3 h3 r s4 hs4 s5 h5
  obtain ⟨rfl, hsvc⟩ := hs2.getOpt
  have hv1 := henv.star h1
  have hv3 := (henv.star h3).trans hv1
  refine ReportPost.keep henv ?_ h5
  rcases hs4.patchAgentStatus with rfl | ⟨o, ho, rfl⟩
  · rw [ReportPost, hv3]
    exact ⟨.refl, rfl⟩
  · have hstored : (view s agent.nameAny).agent = some o := by
      rw [← hv3]
      exact ho
    have hread : svc = .ok ((view s agent.nameAny).objs .service) ∨ ∃ e, svc = .error e := by
      rw [← hv1]
      exact hsvc
    rw [ReportPost, view_setAgent, hv3]
    exact ⟨.single (.report hdone hstored hread), rfl⟩

theorem updateStatus_wp (ctx : Context) (henv : KeepsView env agent.nameAny) {s : Cluster}
    (hdone : Done S agent (view s agent.nameAny)) :
    wp S.Faulty env (fun _ _ s' => ReportPost S ctx agent (view s agent.nameAny) s')
      (updateStatus agent).run s := by
  rw [updateStatus_run]
  by_cases hstate : agent.spec.state = .stopped
  · rw [if_pos hstate]
    have h := reportService_wp ctx henv hdone
    rwa [baseStatus, if_pos hstate] at h
  · rw [if_neg hstate]
    intro s1 h1 r s2 hs
    obtain ⟨rfl, hr⟩ := hs.getOpt
    have hv1 := henv.star h1
    rcases hr with rfl | ⟨e, rfl⟩
    · have h := reportService_wp ctx henv (s := s2) (by rw [hv1]; exact hdone)
      rw [baseStatus, if_neg hstate] at h
      rw [← hv1]
      exact h
    · refine fun s3 h3 => ReportPost.keep henv ?_ h3
      rw [ReportPost, hv1]
      exact ⟨.refl, rfl⟩

structure ReconcilePost (S : Server) (ctx : Context) (agent : Agent) (c : Children)
    (r : Except KubeError Action) (s' : Cluster) : Prop where
  moves : Relation.ReflTransGen (Advance S ctx agent) c (view s' agent.nameAny)
  done : ∀ a, r = .ok a → Done S agent (view s' agent.nameAny)

theorem ReconcilePost.failed {c : Children} {s1 : Cluster} (henv : KeepsView env agent.nameAny)
    (h : Relation.ReflTransGen (Advance S ctx agent) c (view s1 agent.nameAny)) (e : KubeError)
    (s2 : Cluster) (hs : Relation.ReflTransGen env s1 s2) :
    ReconcilePost S ctx agent c (.error e) s2 :=
  ⟨by rw [henv.star hs]; exact h, fun a ha => by cases ha⟩

theorem podStep_wp (ctx : Context) (henv : KeepsView env agent.nameAny) (s : Cluster) :
    wp S.Faulty env (fun _ r s' => PodPost S ctx agent (view s agent.nameAny) r s')
      (podStep agent) s := by
  rw [podStep]
  by_cases hstate : agent.spec.state = .stopped
  · rw [if_pos hstate]
    exact deletePodIfExists_wp ctx henv hstate s
  · rw [if_neg hstate]
    exact reconcilePod_wp ctx henv hstate s

theorem reconcile_wp (ctx : Context) (henv : KeepsView env agent.nameAny) (s : Cluster) :
    wp S.Faulty env (fun _ r s' => ReconcilePost S ctx agent (view s agent.nameAny) r s')
      (reconcile ctx agent).run s := by
  rw [reconcile_run]
  refine wp_andThen (wp_mono (ensure_wp (k := .pvc) ctx henv s) ?_)
  rintro - (e | ⟨⟩) s1 hpvc
  · exact ReconcilePost.failed henv (hpvc.moves (by decide)) e
  have hmoves := hpvc.moves (by decide)
  refine wp_andThen (wp_mono (podStep_wp ctx henv s1) ?_)
  rintro - (e | ⟨⟩) s2 ⟨⟨hpod, hpodFrame⟩, hready⟩
  · exact ReconcilePost.failed henv (hmoves.trans hpod) e
  replace hmoves := hmoves.trans hpod
  refine wp_andThen (wp_mono (ensure_wp (k := .netpol) ctx henv s2) ?_)
  rintro - (e | ⟨⟩) s3 hnetpol
  · exact ReconcilePost.failed henv (hmoves.trans (hnetpol.moves (by decide))) e
  replace hmoves := hmoves.trans (hnetpol.moves (by decide))
  refine wp_andThen (wp_mono (ensure_wp (k := .service) ctx henv s3) ?_)
  rintro - (e | ⟨⟩) s4 hservice
  · exact ReconcilePost.failed henv (hmoves.trans (hservice.moves (by decide))) e
  replace hmoves := hmoves.trans (hservice.moves (by decide))
  -- each step left the children of the earlier steps alone
  have hdone : Done S agent (view s4 agent.nameAny) := by
    refine ⟨fun k hk => ?_, ?_⟩
    · cases k with
      | pvc =>
        rw [hservice.frame (by decide), hnetpol.frame (by decide), hpodFrame _ (by decide)]
        exact hpvc.present () rfl
      | pod => exact (hk rfl).elim
      | netpol =>
        rw [hservice.frame (by decide)]
        exact hnetpol.present () rfl
      | service => exact hservice.present () rfl
    · rw [hservice.frame (by decide), hnetpol.frame (by decide)]
      exact hready () rfl
  refine wp_andThen (wp_mono (updateStatus_wp ctx henv hdone) ?_)
  rintro - (e | ⟨⟩) s5 ⟨hreport, hobjs⟩
  · exact ReconcilePost.failed henv (hmoves.trans hreport) e
  · intro s6 h6
    refine ⟨by rw [henv.star h6]; exact hmoves.trans hreport, fun _ _ => ?_⟩
    rw [henv.star h6]
    exact ⟨by rw [hobjs]; exact hdone.present, by rw [hobjs]; exact hdone.pod⟩

/-- The simulation: a run makes only the moves of the abstract model, and a run that returns Ok
leaves every child in place. -/
theorem reconcile_advances (henv : KeepsView env agent.nameAny) {s s' : Cluster}
    {tr : List (Event Cluster Call Answer)} {r : Except KubeError Action}
    (h : Exec S.Faulty env (reconcile ctx agent).run s tr r s') :
    ReconcilePost S ctx agent (view s agent.nameAny) r s' :=
  exec_wp h (reconcile_wp ctx henv s)

end Simulation

/-! ## The calls of a run -/

/-- The calls a run for `agent` can make. -/
inductive OperatorCall (ctx : Context) (agent : Agent) : Call → Prop where
  | read (k : Kind) : OperatorCall ctx agent (.getOpt k (childName agent.nameAny k))
  | create (k : Kind) : OperatorCall ctx agent (.create k (build ctx agent k))
  | deletePod : OperatorCall ctx agent (.delete .pod (podName agent.nameAny))
  | sleep (secs : Nat) : OperatorCall ctx agent (.sleep secs)
  | report (patch : Json) : OperatorCall ctx agent (.patchAgentStatus agent.nameAny patch)

section Steps

variable {A : Call → Prop} {agent : Agent}

theorem ensureExists_calls {k : Kind} {name : String} {desired : Obj k}
    (hread : A (.getOpt k name)) (hcreate : A (.create k desired)) :
    (ensureExists k name desired).run.AllCalls A := by
  rw [ensureExists_run]
  refine ⟨hread, fun r => ?_⟩
  rcases r with e | _ | o
  · trivial
  · exact ⟨hcreate, fun _ => trivial⟩
  · trivial

theorem reconcilePod_calls (hread : A (.getOpt .pod (podName agent.nameAny)))
    (hdelete : A (.delete .pod (podName agent.nameAny))) (hsleep : A (.sleep 2))
    (hcreate : A (.create .pod (buildPod agent))) : (reconcilePod agent).run.AllCalls A := by
  rw [reconcilePod_run]
  refine ⟨hread, fun r => ?_⟩
  rcases r with e | _ | existing
  · trivial
  · exact ⟨hcreate, fun _ => trivial⟩
  · by_cases h : podNeedsUpdate existing agent
    · simp only [h, if_true]
      refine ⟨hdelete, fun r => ?_⟩
      cases r with
      | ok _ => exact ⟨hsleep, fun _ => ⟨hcreate, fun _ => trivial⟩⟩
      | error e => trivial
    · simp only [h, if_false, Bool.false_eq_true]
      trivial

theorem deletePodIfExists_calls {name : String} (hread : A (.getOpt .pod (podName name)))
    (hdelete : A (.delete .pod (podName name))) : (deletePodIfExists name).run.AllCalls A := by
  rw [deletePodIfExists_run]
  refine ⟨hread, fun r => ?_⟩
  rcases r with e | _ | existing
  · trivial
  · trivial
  · exact ⟨hdelete, fun _ => trivial⟩

theorem podStep_calls (hread : A (.getOpt .pod (podName agent.nameAny)))
    (hdelete : A (.delete .pod (podName agent.nameAny))) (hsleep : A (.sleep 2))
    (hcreate : A (.create .pod (buildPod agent))) : (podStep agent).AllCalls A := by
  rw [podStep]
  split
  · exact deletePodIfExists_calls hread hdelete
  · exact reconcilePod_calls hread hdelete hsleep hcreate

theorem updateStatus_calls (hpod : A (.getOpt .pod (podName agent.nameAny)))
    (hservice : A (.getOpt .service (serviceName agent.nameAny)))
    (hreport : ∀ patch, A (.patchAgentStatus agent.nameAny patch)) :
    (updateStatus agent).run.AllCalls A := by
  rw [updateStatus_run]
  split
  · exact ⟨hservice, fun _ => ⟨hreport _, fun _ => trivial⟩⟩
  · refine ⟨hpod, fun r => ?_⟩
    cases r with
    | ok pod => exact ⟨hservice, fun _ => ⟨hreport _, fun _ => trivial⟩⟩
    | error e => trivial

end Steps

/-- What a run does once its claim is there. -/
def afterPvc (agent : Agent) : Prog Call Answer (Except KubeError Action) :=
  andThen (podStep agent) fun _ =>
  andThen (reconcileNetworkPolicy agent).run fun _ =>
  andThen (reconcileService agent).run fun _ =>
  andThen (updateStatus agent).run fun _ => .ret (.ok ⟨30⟩)

theorem reconcile_run_pvc (ctx : Context) (agent : Agent) :
    (reconcile ctx agent).run = andThen (reconcilePvc ctx agent).run fun _ => afterPvc agent :=
  reconcile_run ctx agent

theorem afterPvc_calls (ctx : Context) (agent : Agent) :
    (afterPvc agent).AllCalls (OperatorCall ctx agent) := by
  refine (podStep_calls (.read .pod) .deletePod (.sleep 2) (.create .pod)).andThen fun _ => ?_
  refine (ensureExists_calls (.read .netpol) (.create .netpol)).andThen fun _ => ?_
  refine (ensureExists_calls (.read .service) (.create .service)).andThen fun _ => ?_
  exact (updateStatus_calls (.read .pod) (.read .service) .report).andThen fun _ => trivial

/-- Whatever the answers, a run makes only the calls of its Agent. -/
theorem reconcile_calls (ctx : Context) (agent : Agent) :
    (reconcile ctx agent).run.AllCalls (OperatorCall ctx agent) := by
  rw [reconcile_run_pvc]
  exact (ensureExists_calls (.read .pvc) (.create .pvc)).andThen fun _ => afterPvc_calls ctx agent

/-- The call has no effect outside the children of the Agent and the Agent. -/
theorem OperatorCall.sameElsewhere {S : Server} {ctx : Context} {agent : Agent} {c : Call}
    (hc : OperatorCall ctx agent c) {s s' : Cluster} {r : Answer c} (h : S.Faulty s c r s') :
    SameElsewhere agent.nameAny s s' := by
  cases hc with
  | read k =>
    obtain ⟨rfl, -⟩ := h.getOpt
    exact .refl ..
  | create k =>
    rcases h.create with ⟨rfl, -⟩ | ⟨-, rfl⟩
    · exact .refl ..
    · rw [objName_build]
      exact .set ..
  | deletePod =>
    rcases h.delete with ⟨rfl, -⟩ | ⟨p, -, rfl⟩
    · exact .refl ..
    · exact .set s agent.nameAny .pod _
  | sleep secs =>
    obtain rfl := h.sleep
    exact .refl ..
  | report patch =>
    rcases h.patchAgentStatus with rfl | ⟨o, -, rfl⟩
    · exact .refl ..
    · exact .setAgent ..

end Operator
end AgentHosting
