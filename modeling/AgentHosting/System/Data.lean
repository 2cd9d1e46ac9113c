import AgentHosting.Lib.Rely
import AgentHosting.System.Tasks

/-!
# AgentHosting.System.Data

The data of an Agent through its life: starts, stops, restarts, edits of the spec, reconcile runs in
which any call may fail, and pods that are lost.

* `ClaimKept`      — what every program relies on: a stored claim stays as it is.
* `DataCall`       — what every program guarantees: a pod is created only where the claim is stored.
* `mounts_claim`   — the pod that is built mounts that claim, writable, and no other.
* `data_survives`  — the claim is never deleted, replaced or modified; no pod is there without it.
-/

namespace AgentHosting
namespace System

open Kube Prog Operator

/-! ## The claim of a pod -/

/-- Every mount of a claim in a pod, with the claim it mounts. -/
def claimMounts (p : Pod) : List (VolumeMount × PersistentVolumeClaimVolumeSource) :=
  match p.spec with
  | none => []
  | some spec =>
    (spec.containers.flatMap fun c => c.volumeMounts.getD []).flatMap fun m =>
      ((spec.volumes.getD []).filter fun v => v.name = m.name).filterMap fun v =>
        v.persistentVolumeClaim.map fun claim => (m, claim)

/-- The pod mounts one claim, this one, once, at this path and writable. -/
def MountsClaim (claim path : String) (p : Pod) : Prop :=
  ∃ m source, claimMounts p = [(m, source)] ∧ source.claimName = claim ∧ m.mountPath = path ∧
    source.readOnly ≠ some true ∧ m.readOnly ≠ some true

theorem mounts_claim (agent : Agent) :
    MountsClaim (pvcName agent.nameAny) agent.spec.volumeMount (buildPod agent) := by
  refine ⟨_, _, rfl, rfl, rfl, ?_, ?_⟩ <;> simp

/-! ## Rely and guarantee -/

/-- A stored claim of this Agent stays as it is. -/
def ClaimKept (name : String) (s s' : Cluster) : Prop :=
  ∀ claim, s.objs .pvc (pvcName name) = some claim → s'.objs .pvc (pvcName name) = some claim

/-- A call of the operator or of a request about this Agent, that creates a pod only where the claim
is stored. -/
def DataCall (ctx : Context) (name : String) (s : Cluster) (c : Call) : Prop :=
  ((∃ agent : Agent, agent.nameAny = name ∧ OperatorCall ctx agent c) ∨ ApiCall name c) ∧
    ∀ p : Pod, c = .create .pod p → (s.objs .pvc (pvcName name)).isSome

variable {S : Server} {ctx : Context} {name : String}

theorem ClaimKept.isSome {s s' : Cluster} (h : ClaimKept name s s')
    (hs : (s.objs .pvc (pvcName name)).isSome) : (s'.objs .pvc (pvcName name)).isSome := by
  obtain ⟨claim, hclaim⟩ := Option.isSome_iff_exists.mp hs
  rw [h claim hclaim]
  rfl

theorem claimKept_of_objs {s s' : Cluster} (h : s'.objs .pvc = s.objs .pvc) :
    ClaimKept name s s' := by
  intro claim hclaim
  rw [h]
  exact hclaim

theorem pvc_of_setPod (s : Cluster) (n : String) (o : Option Pod) :
    (s.set .pod n o).objs .pvc = s.objs .pvc := by
  have hk : Kind.pvc ≠ Kind.pod := by decide
  exact funext fun n' => Cluster.set_other_kind s hk n n' o

/-- No call of either program deletes, replaces or modifies a claim. -/
theorem claimKept_of_call {c : Call} {r : Answer c} {s s' : Cluster} {i : TaskId Unit}
    (hc : TaskCall ctx i c) (hs : S.Faulty s c r s') : ClaimKept name s s' := by
  rcases taskCall_effect hc hs with hobjs | ⟨agent, k, -, hfree, rfl⟩ | ⟨n, p, -, rfl⟩
  · exact claimKept_of_objs (by rw [hobjs])
  · intro claim hclaim
    by_cases hk : Kind.pvc = k
    · subst hk
      by_cases hn : pvcName name = childName agent.nameAny .pvc
      · rw [hn, hfree] at hclaim
        cases hclaim
      · rwa [Cluster.set_other_name s .pvc hn]
    · rwa [Cluster.set_other_kind s hk]
  · exact claimKept_of_objs (pvc_of_setPod s _ _)

theorem DataCall.taskCall {s : Cluster} {c : Call} (h : DataCall ctx name s c) :
    ∃ i : TaskId Unit, TaskCall ctx i c := by
  rcases h.1 with ⟨agent, hname, hc⟩ | hc
  · exact ⟨.operator name (), agent, hname, hc⟩
  · exact ⟨.api 0, name, hc⟩

/-! ## Both programs are safe -/

/-- A run that goes on from its first step has found or created the claim. -/
theorem reconcilePvc_claims {agent : Agent} (hname : agent.nameAny = name) (s : Cluster) :
    wp S.Faulty (ClaimKept name)
      (fun _ r s' => r = .ok () → (s'.objs .pvc (pvcName name)).isSome)
      (reconcilePvc ctx agent).run s := by
  have hkept : ∀ {s s' : Cluster}, Relation.ReflTransGen (ClaimKept name) s s' →
      (s.objs .pvc (pvcName name)).isSome → (s'.objs .pvc (pvcName name)).isSome := by
    intro s s' h hs
    induction h with
    | refl => exact hs
    | tail _ h ih => exact h.isSome ih
  subst hname
  rw [reconcilePvc, ensureExists_run]
  intro s1 _ r s2 hget
  obtain ⟨rfl, rfl | ⟨e, rfl⟩⟩ := hget.getOpt
  · cases hclaim : s2.objs .pvc (pvcName agent.nameAny) with
    | some claim =>
      intro s3 h3 _
      exact hkept h3 (by rw [hclaim]; rfl)
    | none =>
      intro s3 _ r s4 hcreate s5 h5 hr
      subst hr
      rcases hcreate.create with ⟨-, e, he⟩ | ⟨-, rfl⟩
      · cases he
      · refine hkept h5 ?_
        show ((s3.set .pvc (pvcName agent.nameAny) _).objs .pvc (pvcName agent.nameAny)).isSome
        rw [Cluster.set_same]
        rfl
  · intro s3 _ hr
    cases hr

theorem claimKept_guaranteed {s s' : Cluster} {c : Call} {r : Answer c}
    (h : DataCall ctx name s c) (hs : S.Faulty s c r s') : ClaimKept name s s' := by
  obtain ⟨i, hc⟩ := h.taskCall
  exact claimKept_of_call hc hs

theorem reconcileTask_safe {agent : Agent} (hname : agent.nameAny = name) (s : Cluster) :
    Safe S.Faulty (ClaimKept name) (DataCall ctx name) (reconcileTask ctx agent) s := by
  have hrun : Safe S.Faulty (ClaimKept name) (DataCall ctx name) (reconcile ctx agent).run s := by
    rw [reconcile_run_pvc]
    refine Safe.andThen ?_ ?_
    · -- the first step creates no pod
      have hcalls : (reconcilePvc ctx agent).run.AllCalls
          fun c => OperatorCall ctx agent c ∧ ∀ p : Pod, c ≠ .create .pod p :=
        ensureExists_calls ⟨.read .pvc, fun p => by simp⟩ ⟨.create .pvc, fun p => by simp⟩
      exact hcalls.safe (I := fun _ => True) (fun _ _ _ _ => trivial) (fun _ _ _ _ _ _ _ => trivial)
        (fun _ _ _ hc => ⟨.inl ⟨agent, hname, hc.1⟩, fun p hp => (hc.2 p hp).elim⟩) trivial
    · refine wp_mono (reconcilePvc_claims hname s) fun _ r s' hclaim a hr => ?_
      subst hr
      refine (afterPvc_calls ctx agent).safe (I := fun s => (s.objs .pvc (pvcName name)).isSome)
        (fun _ _ hi hs => hs.isSome hi) (fun s c r s' hi hc hs => ?_)
        (fun _ _ hi hc => ⟨.inl ⟨agent, hname, hc⟩, fun _ _ => hi⟩) (hclaim rfl)
      have htask : TaskCall ctx (.operator name () : TaskId Unit) c := ⟨agent, hname, hc⟩
      exact (claimKept_of_call htask hs).isSome hi
  exact hrun.bind (wp_of_forall (fun _ _ _ => trivial) _ s)

theorem requestTask_safe (r : Api.Request) (start : Api.Instant) (clock : List Api.Instant)
    (s : Cluster) :
    Safe S.Faulty (ClaimKept r.name) (DataCall ctx r.name) (requestTask r start clock) s := by
  refine (requestTask_calls .read (request_calls r) start clock).safe (I := fun _ => True)
    (fun _ _ _ _ => trivial) (fun _ _ _ _ _ _ _ => trivial) (fun _ c _ hc => ⟨.inr hc, ?_⟩) trivial
  intro p hp
  subst hp
  cases hc

/-! ## Runs -/

section Runs

variable {Slot : Type}

/-- Reconcile runs of one Agent, from whatever spec, and requests to start, stop or restart it. -/
inductive Lifecycle (ctx : Context) (name : String) :
    TaskId Slot → Prog Call Answer Outcome → Prop where
  | reconcile {agent : Agent} (slot : Slot) : agent.nameAny = name →
      Lifecycle ctx name (.operator name slot) (reconcileTask ctx agent)
  | start (start : Api.Instant) (clock : List Api.Instant) (n : Nat) :
      Lifecycle ctx name (.api n) (requestTask (.start name) start clock)
  | stop (start : Api.Instant) (clock : List Api.Instant) (n : Nat) :
      Lifecycle ctx name (.api n) (requestTask (.stop name) start clock)
  | restart (start : Api.Instant) (clock : List Api.Instant) (n : Nat) :
      Lifecycle ctx name (.api n) (requestTask (.restart name) start clock)

/-- What happens besides: the nodes at work, a pod lost, an Agent edited. -/
inductive Disturbance : Cluster → Cluster → Prop where
  | node {s s' : Cluster} : Kubelet s s' → Disturbance s s'
  | lost (s : Cluster) (n : String) : Disturbance s (s.set .pod n none)
  | edit {s : Cluster} {n : String} {o : AgentObject} (o' : AgentObject) : s.agents n = some o →
      Disturbance s (s.setAgent n (some o'))

/-- The invariant: every task is safe, and a pod is there only with the claim. -/
structure Durable (S : Server) (ctx : Context) (name : String) (w : World Slot) : Prop where
  safe : w.AllSafe S.Faulty (ClaimKept name) (DataCall ctx name)
  claim : (w.state.objs .pod (podName name)).isSome → (w.state.objs .pvc (pvcName name)).isSome

theorem disturbance_pvc {s s' : Cluster} (h : Disturbance s s') : s'.objs .pvc = s.objs .pvc := by
  cases h with
  | node h => cases h <;> exact pvc_of_setPod _ _ _
  | lost n => exact pvc_of_setPod _ _ _
  | edit o' ho => rfl

theorem disturbance_pod {s s' : Cluster} (h : Disturbance s s') {n : String}
    (hn : (s'.objs .pod n).isSome) : (s.objs .pod n).isSome := by
  have hset : ∀ {m : String} {o : Option Pod}, (o.isSome → (s.objs .pod m).isSome) →
      ((s.set .pod m o).objs .pod n).isSome → (s.objs .pod n).isSome := by
    intro m o ho h
    by_cases hm : n = m
    · subst hm
      rw [Cluster.set_same] at h
      exact ho h
    · rwa [Cluster.set_other_name s .pod hm] at h
  cases h with
  | node h =>
    cases h with
    | finish hp _ => exact hset (fun _ => by rw [hp]; rfl) hn
    | report nodeName status hp => exact hset (fun _ => by rw [hp]; rfl) hn
  | lost n => exact hset (fun h => by cases h) hn
  | edit o' ho => exact hn

/-- A call that creates a pod finds the claim, every other call creates none. -/
theorem call_pod {s s' : Cluster} {c : Call} {r : Answer c} (h : DataCall ctx name s c)
    (hs : S.Faulty s c r s') (hn : (s'.objs .pod (podName name)).isSome) :
    (s.objs .pod (podName name)).isSome ∨ (s.objs .pvc (pvcName name)).isSome := by
  obtain ⟨i, hc⟩ := h.taskCall
  rcases taskCall_effect hc hs with hobjs | ⟨agent, k, rfl, -, rfl⟩ | ⟨n, p, hp, rfl⟩
  · rw [hobjs] at hn
    exact .inl hn
  · by_cases hk : Kind.pod = k
    · subst hk
      exact .inr (h.2 _ rfl)
    · rw [Cluster.set_other_kind s hk] at hn
      exact .inl hn
  · by_cases hname : podName name = podName n
    · rw [hname, hp]
      exact .inl rfl
    · rw [Cluster.set_other_name s .pod hname] at hn
      exact .inl hn

theorem lifecycle_safe {i : TaskId Slot} {p : Prog Call Answer Outcome}
    (h : Lifecycle ctx name i p) (s : Cluster) :
    Safe S.Faulty (ClaimKept name) (DataCall ctx name) p s := by
  cases h with
  | reconcile slot hname => exact reconcileTask_safe hname s
  | start start clock n => exact requestTask_safe (.start name) start clock s
  | stop start clock n => exact requestTask_safe (.stop name) start clock s
  | restart start clock n => exact requestTask_safe (.restart name) start clock s

variable [DecidableEq Slot]

/-- One step of the life of an Agent; any call may fail, with or without its effect. -/
abbrev LifeStep (S : Server) (ctx : Context) (name : String) :
    World Slot → Label Slot → World Slot → Prop :=
  Pool.Step (Lifecycle ctx name) S.Faulty Disturbance

theorem claimKept_step {w w' : World Slot} {l : Label Slot}
    (h : w.AllSafe S.Faulty (ClaimKept name) (DataCall ctx name))
    (hs : LifeStep S ctx name w l w') : ClaimKept name w.state w'.state := by
  cases hs with
  | spawn _ _ => exact fun _ hclaim => hclaim
  | call hp hserve => exact claimKept_guaranteed (h.call hp) hserve
  | exit _ => exact fun _ hclaim => hclaim
  | env he => exact claimKept_of_objs (disturbance_pvc he)

theorem durable_step {w w' : World Slot} {l : Label Slot} (h : Durable S ctx name w)
    (hs : LifeStep S ctx name w l w') : Durable S ctx name w' := by
  refine ⟨Pool.safe_step (fun _ _ hp => lifecycle_safe hp _)
    (fun _ _ _ _ => claimKept_guaranteed)
    (fun _ _ he => claimKept_of_objs (disturbance_pvc he)) h.safe hs, fun hpod => ?_⟩
  refine (claimKept_step h.safe hs).isSome ?_
  cases hs with
  | spawn _ _ => exact h.claim hpod
  | call hp hserve =>
    rcases call_pod (h.safe.call hp) hserve hpod with hold | hclaim
    · exact h.claim hold
    · exact hclaim
  | exit _ => exact h.claim hpod
  | env he => exact h.claim (disturbance_pod he hpod)

/-- In every run: a pod of the Agent is there only with its claim, a claim that is stored stays as
it is in every later state, and every pod that is created mounts that claim, writable, at the volume
mount of the spec it is built from. -/
theorem data_survives {s : Cluster} (hnone : ∀ k, s.objs k (childName name k) = none)
    {w : World Slot} {tr : List (World Slot × Label Slot)}
    (hrun : Run (LifeStep S ctx name) (World.initial s) tr w) :
    ((w.state.objs .pod (podName name)).isSome → (w.state.objs .pvc (pvcName name)).isSome) ∧
    (∀ tr' w', Run (LifeStep S ctx name) w tr' w' → ClaimKept name w.state w'.state) ∧
    ∀ e ∈ tr, ∀ i (p : Pod) r, e.2 = .call i (.create .pod p) r →
      (e.1.state.objs .pvc (pvcName name)).isSome ∧
      ∃ agent : Agent, agent.nameAny = name ∧ p = buildPod agent ∧
        MountsClaim (pvcName name) agent.spec.volumeMount p := by
  have hinitial : Durable S ctx name (World.initial s : World Slot) := by
    refine ⟨World.initial_progsIn _ s, fun hpod => ?_⟩
    rw [show (World.initial s : World Slot).state.objs .pod (podName name) = none from
      hnone .pod] at hpod
    cases hpod
  have hdurable := hrun.invariant (fun _ _ _ h hs => durable_step h hs) hinitial
  refine ⟨hdurable.claim, fun tr' w' hrun' => ?_, fun e he i p r hcreate => ?_⟩
  · have hkept := hrun'.invariant
      (I := fun v => Durable S ctx name v ∧ ClaimKept name w.state v.state)
      (fun _ _ _ h hs => ⟨durable_step h.1 hs,
        fun claim hclaim => claimKept_step h.1.safe hs claim (h.2 claim hclaim)⟩)
      ⟨hdurable, fun _ hclaim => hclaim⟩
    exact hkept.2
  · have hdurable' := hrun.invariant_at (fun _ _ _ h hs => durable_step h hs) hinitial e he
    obtain ⟨w', hs⟩ := hrun.step_of_mem e he
    rw [hcreate] at hs
    cases hs with
    | call hp _ =>
      obtain ⟨hcall, hclaim⟩ := hdurable'.safe.call hp
      refine ⟨hclaim p rfl, ?_⟩
      rcases hcall with ⟨agent, rfl, hcall⟩ | hcall
      · cases hcall with
        | create k => exact ⟨agent, rfl, rfl, mounts_claim agent⟩
      · cases hcall

end Runs

/-- The first four calls of the first run: the claim and the pod are created. -/
theorem data_survives_created :
    ∃ (tr : List (World Unit × Label Unit)) (w : World Unit),
      Run (LifeStep Server.verbatim {} "a")
        (World.initial (Agent.sample "a" "uid-1" .running).alone) tr w ∧
      (w.state.objs .pod "agent-a").isSome ∧ (w.state.objs .pvc "agent-a-data").isSome ∧
      ∀ tr' w', Run (LifeStep Server.verbatim {} "a") w tr' w' →
        ClaimKept "a" w.state w'.state := by
  obtain ⟨tr, hrun, -⟩ := Pool.run_advanced Disturbance Server.verbatim.exec
    (w := (World.initial (Agent.sample "a" "uid-1" .running).alone : World Unit))
    (p := reconcileTask {} (Agent.sample "a" "uid-1" .running)) rfl
    (.reconcile () rfl : Lifecycle {} "a" _ _) 4
    fun _ _ _ _ => (.served : Server.verbatim.Faulty _ _ _ _)
  have hdata := data_survives (fun k => by cases k <;> rfl) hrun
  exact ⟨tr, _, hrun, rfl, hdata.1 rfl, hdata.2.1⟩

end System
end AgentHosting
