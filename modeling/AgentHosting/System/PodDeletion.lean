import AgentHosting.System.Tasks

/-!
# AgentHosting.System.PodDeletion

Which pods the two programs delete. They find the pod of an Agent by its name and look at nothing
else of it, its owner included.

* `deletes_own_name` — a reconcile run and a restart delete the pod of their Agent's name and no
  other object, and leave every other pod as it is.
* `deletes_unowned`  — the pod of that name need not belong to the Agent.
-/

namespace AgentHosting
namespace System

open Kube Prog

/-- The pod carries an owner reference with this uid. -/
def OwnedBy (uid : String) (m : ObjectMeta) : Prop :=
  ∃ ref ∈ m.ownerReferences.getD [], ref.uid = uid

/-- The event deletes no Agent, of the other objects nothing but the pod of the Agent called `name`,
and leaves every pod of another name as it is. -/
structure DeletesOnly (name : String) (e : Event Cluster Call Answer) : Prop where
  own : ∀ k n, e.call = .delete k n → k = .pod ∧ n = Operator.podName name
  noAgent : ∀ n, e.call ≠ .deleteAgent n
  others : ∀ n, n ≠ Operator.podName name → e.post.objs .pod n = e.pre.objs .pod n

theorem operatorCall_deletesOnly {S : Server} {ctx : Operator.Context} {agent : Operator.Agent}
    {e : Event Cluster Call Answer} (hc : Operator.OperatorCall ctx agent e.call)
    (hs : S.Faulty e.pre e.call e.answer e.post) : DeletesOnly agent.nameAny e where
  own := by
    intro k n hdelete
    rw [hdelete] at hc
    cases hc with
    | deletePod => exact ⟨rfl, rfl⟩
  noAgent := by
    intro n hdelete
    rw [hdelete] at hc
    cases hc
  others := fun n hn => (hc.sameElsewhere hs).objs .pod n hn

/-- The calls of a restart. -/
inductive RestartCall (name : String) : Call → Prop where
  | read : RestartCall name (.getAgent name)
  | deletePod : RestartCall name (.delete .pod (Operator.podName name))

theorem restartCall_deletesOnly {S : Server} {name : String} {c : Call} {r : Answer c}
    {pre post : Cluster} (hc : RestartCall name c) (hs : S.Faulty pre c r post) :
    DeletesOnly name ⟨pre, c, r, post⟩ := by
  cases hc with
  | read =>
    have hobjs := hs.objs_of_agentCall (by intro k; simp)
    refine ⟨fun k n hdelete => ?_, fun n hdelete => ?_, fun n _ => ?_⟩
    · cases hdelete
    · cases hdelete
    · exact congrFun (congrFun hobjs .pod) n
  | deletePod =>
    refine ⟨fun k n hdelete => ?_, fun n hdelete => ?_, fun n hn => ?_⟩
    · cases hdelete
      exact ⟨rfl, rfl⟩
    · cases hdelete
    · rcases hs.delete with ⟨rfl, -⟩ | ⟨p, -, rfl⟩
      · rfl
      · exact Cluster.set_other_name _ _ hn _

/-- Whatever the cluster holds, whatever fails and whoever else runs: a reconcile run, and a
restart, delete no object but the pod of their Agent's name, and leave all other pods as they
are. -/
theorem deletes_own_name (S : Server) (env : Cluster → Cluster → Prop) :
    (∀ (ctx : Operator.Context) (agent : Operator.Agent) s tr r s',
      Exec S.Faulty env (Operator.reconcile ctx agent).run s tr r s' →
        ∀ e ∈ tr, DeletesOnly agent.nameAny e) ∧
      ∀ (name : String) s tr r s', Exec S.Faulty env (Api.restartInstance name).run s tr r s' →
        ∀ e ∈ tr, DeletesOnly name e := by
  constructor
  · intro ctx agent s tr r s' h e he
    exact operatorCall_deletesOnly (exec_allCalls h (Operator.reconcile_calls ctx agent) e he)
      (exec_served h e he)
  · intro name s tr r s' h e he
    exact restartCall_deletesOnly (exec_allCalls h (restartInstance_calls .read .deletePod) e he)
      (exec_served h e he)

/-- A pod of a Deployment called `agent-operator`, next to a stopped Agent called `operator`. -/
def sampleForeignPod : Cluster :=
  (Operator.Agent.sample "operator" "uid-1" .stopped).alone.set .pod "agent-operator"
    (some { metadata := { name := some "agent-operator" } })

theorem deletes_own_name_foreign :
    ∀ e ∈ trace Server.verbatim.exec
        (Operator.reconcile {} (Operator.Agent.sample "operator" "uid-1" .stopped)).run
        sampleForeignPod, DeletesOnly "operator" e :=
  (deletes_own_name Server.verbatim Alone).1 {} _ _ _ _ _ (Server.exec_of_run ..)

/-- The pod of that name is deleted although no owner reference ties it to the Agent. -/
theorem deletes_unowned :
    ¬ ∀ (S : Server) (env : Cluster → Cluster → Prop) (ctx : Operator.Context)
      (agent : Operator.Agent) s tr r s',
      Exec S.Faulty env (Operator.reconcile ctx agent).run s tr r s' →
      ∀ e ∈ tr, ∀ n p, e.call = .delete .pod n → e.pre.objs .pod n = some p →
        OwnedBy (agent.metadata.uid.getD "") p.metadata := by
  intro h
  have hrun := Server.exec_of_run Server.verbatim Alone
    (Operator.reconcile {} (Operator.Agent.sample "operator" "uid-1" .stopped)).run sampleForeignPod
  have howned := h _ _ _ _ _ _ _ _ hrun
  obtain ⟨ref, href, -⟩ := howned (trace Server.verbatim.exec
    (Operator.reconcile {} (Operator.Agent.sample "operator" "uid-1" .stopped)).run
    sampleForeignPod)[3] (List.getElem_mem _) "agent-operator" _ rfl rfl
  cases href

end System
end AgentHosting
