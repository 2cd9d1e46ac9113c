import AgentHosting.Lib.Json
import AgentHosting.Lib.Prog
import AgentHosting.Lib.Quantity
import AgentHosting.Kube.Objects

/-!
# AgentHosting.Kube.Cluster

The namespace both programs work in: one store per kind of object, keyed by name, the Agents as the
JSON the API server keeps, the calls the two clients make, and what the API server does with them.

* `Server.exec`   — a call that the server carries out, answering NotFound and AlreadyExists where
  it must. A server may rewrite an object it admits, and may delete pods gracefully.
* `Server.Faulty` — the same server when any call may fail, before or after taking effect.
-/

namespace AgentHosting
namespace Kube

/-! ## The store -/

inductive Kind where
  | pvc
  | pod
  | netpol
  | service
deriving DecidableEq

@[reducible] def Obj : Kind → Type
  | .pvc => PersistentVolumeClaim
  | .pod => Pod
  | .netpol => NetworkPolicy
  | .service => Service

def metadata : {k : Kind} → Obj k → ObjectMeta
  | .pvc, o => PersistentVolumeClaim.metadata o
  | .pod, o => Pod.metadata o
  | .netpol, o => NetworkPolicy.metadata o
  | .service, o => Service.metadata o

def objName {k : Kind} (o : Obj k) : String := (metadata o).name.getD ""

/-- An Agent as stored: the metadata, and the JSON of its two parts. -/
structure AgentObject where
  metadata : ObjectMeta
  spec : Json
  status : Option Json := none

def AgentObject.toJson (o : AgentObject) : Json :=
  Json.record [("spec", some o.spec), ("status", o.status)]

/-- A merge patch of the main resource, which cannot change the status. -/
def AgentObject.patchMain (o : AgentObject) (patch : Json) : AgentObject :=
  { o with spec := ((Json.mergePatch patch o.toJson).get? "spec").getD .null }

/-- A merge patch of the status subresource, which cannot change the spec. -/
def AgentObject.patchStatus (o : AgentObject) (patch : Json) : AgentObject :=
  { o with status := (Json.mergePatch patch o.toJson).get? "status" }

theorem AgentObject.patchStatus_object (o : AgentObject) (v : Json) :
    o.patchStatus (Json.object [("status", v)]) =
      { o with status := Json.mergeField (some v) o.status } := by
  simp only [patchStatus, Json.object, Json.get?_mergePatch_obj, toJson, Json.get?_record]
  rfl

@[ext] structure Cluster where
  objs : (k : Kind) → String → Option (Obj k)
  agents : String → Option AgentObject

namespace Cluster

def empty : Cluster := ⟨fun _ _ => none, fun _ => none⟩

def set (s : Cluster) (k : Kind) (name : String) (o : Option (Obj k)) : Cluster :=
  { s with objs := Function.update s.objs k (Function.update (s.objs k) name o) }

def setAgent (s : Cluster) (name : String) (o : Option AgentObject) : Cluster :=
  { s with agents := Function.update s.agents name o }

@[simp] theorem set_same (s : Cluster) (k : Kind) (n : String) (o : Option (Obj k)) :
    (s.set k n o).objs k n = o := by
  simp [set]

theorem set_other_name (s : Cluster) (k : Kind) {n n' : String} (h : n' ≠ n)
    (o : Option (Obj k)) : (s.set k n o).objs k n' = s.objs k n' := by
  simp [set, h]

theorem set_other_kind (s : Cluster) {k k' : Kind} (h : k' ≠ k) (n n' : String)
    (o : Option (Obj k)) : (s.set k n o).objs k' n' = s.objs k' n' := by
  simp [set, h]

@[simp] theorem set_agents (s : Cluster) (k : Kind) (n : String) (o : Option (Obj k)) :
    (s.set k n o).agents = s.agents := rfl

@[simp] theorem setAgent_objs (s : Cluster) (n : String) (o : Option AgentObject) :
    (s.setAgent n o).objs = s.objs := rfl

@[simp] theorem setAgent_same (s : Cluster) (n : String) (o : Option AgentObject) :
    (s.setAgent n o).agents n = o := by
  simp [setAgent]

theorem setAgent_other (s : Cluster) {n n' : String} (h : n' ≠ n) (o : Option AgentObject) :
    (s.setAgent n o).agents n' = s.agents n' := by
  simp [setAgent, h]

/-- A write changes one kind and one name. -/
theorem set_objs_cases (s : Cluster) (k k' : Kind) (n n' : String) (o : Option (Obj k)) :
    (∃ h : k' = k, n' = n ∧ (s.set k n o).objs k' n' = h ▸ o) ∨
      (s.set k n o).objs k' n' = s.objs k' n' := by
  by_cases hk : k' = k
  · subst hk
    by_cases hn : n' = n
    · subst hn; exact .inl ⟨rfl, rfl, set_same ..⟩
    · exact .inr (set_other_name _ _ hn _)
  · exact .inr (set_other_kind _ hk _ _ _)

theorem set_get (s : Cluster) (k : Kind) (n : String) : s.set k n (s.objs k n) = s := by
  simp [set]

theorem setAgent_get (s : Cluster) (n : String) : s.setAgent n (s.agents n) = s := by
  simp [setAgent]

@[simp] theorem set_set (s : Cluster) (k : Kind) (n : String) (o o' : Option (Obj k)) :
    (s.set k n o).set k n o' = s.set k n o' := by
  simp [set]

end Cluster

/-! ## Calls -/

/-- An error of the client: the code of an API error (none for any other error), and its text. -/
structure KubeError where
  code : Option Nat
  text : String
deriving DecidableEq

inductive Call where
  | getOpt (k : Kind) (name : String)
  | create (k : Kind) (o : Obj k)
  | delete (k : Kind) (name : String)
  | getAgent (name : String)
  | createAgent (o : AgentObject)
  | deleteAgent (name : String)
  | patchAgent (name : String) (patch : Json)
  | patchAgentStatus (name : String) (patch : Json)
  | sleep (secs : Nat)

@[reducible] def Answer : Call → Type
  | .getOpt k _ => Except KubeError (Option (Obj k))
  | .create _ _ | .delete _ _ => Except KubeError Unit
  | .getAgent _ => Except KubeError (Option AgentObject)
  | .createAgent _ | .deleteAgent _ | .patchAgent _ _ | .patchAgentStatus _ _ =>
    Except KubeError Unit
  | .sleep _ => Unit

/-- The answer of a call that fails; a sleep cannot fail. -/
def Call.failure : (c : Call) → KubeError → Answer c
  | .getOpt _ _, e | .create _ _, e | .delete _ _, e | .getAgent _, e | .createAgent _, e
  | .deleteAgent _, e | .patchAgent _ _, e | .patchAgentStatus _ _, e => .error e
  | .sleep _, _ => ()

/-- A program of either client: calls, with errors ending it as `?` does. -/
abbrev Op (α : Type) := ExceptT KubeError (Prog Call Answer) α

def request (c : Call) : Prog Call Answer (Answer c) := .perform c

def getOpt (k : Kind) (name : String) : Op (Option (Obj k)) := ExceptT.mk (request (.getOpt k name))

def create (k : Kind) (o : Obj k) : Op Unit := ExceptT.mk (request (.create k o))

def delete (k : Kind) (name : String) : Op Unit := ExceptT.mk (request (.delete k name))

def patchAgentStatus (name : String) (patch : Json) : Op Unit :=
  ExceptT.mk (request (.patchAgentStatus name patch))

def sleep (secs : Nat) : Op Unit := ExceptT.lift (request (.sleep secs))

/-- The result of an operation as a value, errors included. -/
def attempt {α : Type} (x : Op α) : Op (Except KubeError α) :=
  ExceptT.lift (x.run : Prog Call Answer (Except KubeError α))

/-! ## The API server -/

def notFound : KubeError := ⟨some 404, "NotFound"⟩

def alreadyExists : KubeError := ⟨some 409, "AlreadyExists"⟩

/-- How the API server treats what it is sent: `stored` is what it stores for a new child object,
`storedAgent` for a new Agent, and `graceful` tells that a deleted pod stays, terminating. -/
structure Server where
  stored : {k : Kind} → Obj k → Obj k
  storedAgent : AgentObject → AgentObject
  graceful : Bool
  deletedAt : String

namespace Server

def plain (graceful : Bool) (deletedAt : String) : Server := ⟨id, id, graceful, deletedAt⟩

/-- New objects stored as sent, deletes done at once. -/
def verbatim : Server := plain false ""

@[simp] theorem verbatim_stored {k : Kind} (o : Obj k) : verbatim.stored o = o := rfl

/-- New objects stored with their quantities in canonical form, and otherwise as sent. -/
def canonical (Q : AgentHosting.Quantity.Canonical) (graceful : Bool) (deletedAt : String) :
    Server where
  stored := fun {k} =>
    match k with
    | .pvc => PersistentVolumeClaim.respell Q.spell
    | .pod => Pod.respell Q.spell
    | .netpol | .service => id
  storedAgent := id
  graceful := graceful
  deletedAt := deletedAt

/-- What an accepted delete leaves of an object. -/
def remains (S : Server) : {k : Kind} → Obj k → Option (Obj k)
  | .pod, (p : Pod) =>
    if S.graceful then
      some { p with metadata := { p.metadata with deletionTimestamp := some S.deletedAt } }
    else none
  | _, _ => none

def exec (S : Server) (s : Cluster) : (c : Call) → Answer c × Cluster
  | .getOpt k n => (.ok (s.objs k n), s)
  | .create k o =>
    match s.objs k (objName o) with
    | some _ => (.error alreadyExists, s)
    | none => (.ok (), s.set k (objName o) (some (S.stored o)))
  | .delete k n =>
    match s.objs k n with
    | some o => (.ok (), s.set k n (S.remains o))
    | none => (.error notFound, s)
  | .getAgent n => (.ok (s.agents n), s)
  | .createAgent o =>
    match s.agents (o.metadata.name.getD "") with
    | some _ => (.error alreadyExists, s)
    | none => (.ok (), s.setAgent (o.metadata.name.getD "") (some (S.storedAgent o)))
  | .deleteAgent n =>
    match s.agents n with
    | some _ => (.ok (), s.setAgent n none)
    | none => (.error notFound, s)
  | .patchAgent n patch =>
    match s.agents n with
    | some o => (.ok (), s.setAgent n (some (o.patchMain patch)))
    | none => (.error notFound, s)
  | .patchAgentStatus n patch =>
    match s.agents n with
    | some o => (.ok (), s.setAgent n (some (o.patchStatus patch)))
    | none => (.error notFound, s)
  | .sleep _ => ((), s)

@[simp] theorem exec_getOpt (S : Server) (s : Cluster) (k : Kind) (n : String) :
    S.exec s (.getOpt k n) = (.ok (s.objs k n), s) := rfl

@[simp] theorem exec_sleep (S : Server) (s : Cluster) (secs : Nat) :
    S.exec s (.sleep secs) = ((), s) := rfl

theorem exec_patchAgentStatus (S : Server) (s : Cluster) (n : String) (patch : Json) :
    S.exec s (.patchAgentStatus n patch) =
      (if (s.agents n).isSome then .ok () else .error notFound,
        s.setAgent n ((s.agents n).map (·.patchStatus patch))) := by
  cases ho : s.agents n with
  | some o => simp [exec, ho]
  | none =>
    have hsame : s.setAgent n none = s := by
      rw [← ho]
      exact s.setAgent_get n
    simp [exec, ho, hsame]

/-- A create leaves every Agent as it is. -/
theorem agents_of_create {S : Server} {s s' : Cluster} {k : Kind} {o : Obj k}
    {r : Answer (.create k o)} (h : S.exec s (.create k o) = (r, s')) : s'.agents = s.agents := by
  simp only [exec] at h
  split at h
  · cases h
    rfl
  · cases h
    rfl

/-- A delete of another object leaves every Agent as it is. -/
theorem agents_of_delete {S : Server} {s s' : Cluster} {k : Kind} {n : String}
    {r : Answer (.delete k n)} (h : S.exec s (.delete k n) = (r, s')) : s'.agents = s.agents := by
  simp only [exec] at h
  split at h
  · cases h
    rfl
  · cases h
    rfl

/-- Any call may be carried out, or fail with or without its effect. -/
inductive Faulty (S : Server) (s : Cluster) (c : Call) : Answer c → Cluster → Prop where
  | served : Faulty S s c (S.exec s c).1 (S.exec s c).2
  | lost (e : KubeError) : Faulty S s c (c.failure e) s
  | applied (e : KubeError) : Faulty S s c (c.failure e) (S.exec s c).2

theorem exec_of_run {α : Type} (S : Server) (env : Cluster → Cluster → Prop)
    (p : Prog Call Answer α) (s : Cluster) :
    Prog.Exec S.Faulty env p s (p.trace S.exec s) (p.run S.exec s).1 (p.run S.exec s).2 := by
  refine Prog.Exec.mono ?_ (Prog.run_exec p s)
  rintro s c r s' h
  obtain ⟨rfl, rfl⟩ := Prod.mk.inj h
  exact .served

namespace Faulty

variable {S : Server} {s s' : Cluster}

theorem state {c : Call} {r : Answer c} (h : S.Faulty s c r s') :
    s' = s ∨ s' = (S.exec s c).2 := by
  cases h with
  | served => exact .inr rfl
  | lost e => exact .inl rfl
  | applied e => exact .inr rfl

theorem getOpt {k : Kind} {n : String} {r : Answer (.getOpt k n)}
    (h : S.Faulty s (.getOpt k n) r s') :
    s' = s ∧ (r = .ok (s.objs k n) ∨ ∃ e, r = .error e) := by
  cases h with
  | served => exact ⟨rfl, .inl rfl⟩
  | lost e => exact ⟨rfl, .inr ⟨e, rfl⟩⟩
  | applied e => exact ⟨rfl, .inr ⟨e, rfl⟩⟩

theorem create {k : Kind} {o : Obj k} {r : Answer (.create k o)}
    (h : S.Faulty s (.create k o) r s') :
    (s' = s ∧ ∃ e, r = .error e) ∨
      (s.objs k (objName o) = none ∧ s' = s.set k (objName o) (some (S.stored o))) := by
  cases ho : s.objs k (objName o) with
  | some p =>
    left
    cases h with
    | served => simp only [exec, ho]; exact ⟨trivial, _, rfl⟩
    | lost e => exact ⟨rfl, e, rfl⟩
    | applied e => simp only [exec, ho]; exact ⟨trivial, e, rfl⟩
  | none =>
    cases h with
    | served => right; simp only [exec, ho]; exact ⟨trivial, trivial⟩
    | lost e => exact .inl ⟨rfl, e, rfl⟩
    | applied e => right; simp only [exec, ho]; exact ⟨trivial, trivial⟩

theorem delete {k : Kind} {n : String} {r : Answer (.delete k n)}
    (h : S.Faulty s (.delete k n) r s') :
    (s' = s ∧ ∃ e, r = .error e) ∨
      ∃ o, s.objs k n = some o ∧ s' = s.set k n (S.remains o) := by
  cases ho : s.objs k n with
  | none =>
    left
    cases h with
    | served => simp only [exec, ho]; exact ⟨trivial, _, rfl⟩
    | lost e => exact ⟨rfl, e, rfl⟩
    | applied e => simp only [exec, ho]; exact ⟨trivial, e, rfl⟩
  | some o =>
    cases h with
    | served => right; simp only [exec, ho]; exact ⟨o, rfl, rfl⟩
    | lost e => exact .inl ⟨rfl, e, rfl⟩
    | applied e => right; simp only [exec, ho]; exact ⟨o, rfl, rfl⟩

theorem sleep {n : Nat} {r : Answer (.sleep n)} (h : S.Faulty s (.sleep n) r s') : s' = s := by
  cases h <;> rfl

theorem getAgent {n : String} {r : Answer (.getAgent n)} (h : S.Faulty s (.getAgent n) r s') :
    s' = s ∧ (r = .ok (s.agents n) ∨ ∃ e, r = .error e) := by
  cases h with
  | served => exact ⟨rfl, .inl rfl⟩
  | lost e => exact ⟨rfl, .inr ⟨e, rfl⟩⟩
  | applied e => exact ⟨rfl, .inr ⟨e, rfl⟩⟩

/-- The calls on Agents leave every other object as it is. -/
theorem objs_of_agentCall {c : Call} {r : Answer c} (h : S.Faulty s c r s')
    (hc : ∀ k, (∀ n, c ≠ .getOpt k n) ∧ (∀ o, c ≠ .create k o) ∧ ∀ n, c ≠ .delete k n) :
    s'.objs = s.objs := by
  have hexec : (S.exec s c).2.objs = s.objs := by
    cases c with
    | getOpt k n => exact ((hc k).1 n rfl).elim
    | create k o => exact ((hc k).2.1 o rfl).elim
    | delete k n => exact ((hc k).2.2 n rfl).elim
    | getAgent n => rfl
    | sleep secs => rfl
    | createAgent o => simp only [exec]; split <;> rfl
    | deleteAgent n => simp only [exec]; split <;> rfl
    | patchAgent n patch => simp only [exec]; split <;> rfl
    | patchAgentStatus n patch => simp only [exec]; split <;> rfl
  rcases h.state with rfl | rfl
  · rfl
  · exact hexec

/-- Only a create or a delete of a pod changes a pod. -/
theorem pods_of_call {c : Call} {r : Answer c} (h : S.Faulty s c r s')
    (hc : (∀ n, c ≠ .delete .pod n) ∧ ∀ p : Pod, c ≠ .create .pod p) :
    s'.objs .pod = s.objs .pod := by
  have hset : ∀ {k : Kind} (n : String) (o : Option (Obj k)), Kind.pod ≠ k →
      (s.set k n o).objs .pod = s.objs .pod :=
    fun n o hk => funext fun n' => Cluster.set_other_kind s hk n n' o
  cases c with
  | getOpt k n => rw [h.getOpt.1]
  | create k o =>
    rcases h.create with ⟨rfl, -⟩ | ⟨-, rfl⟩
    · rfl
    · exact hset _ _ fun hk => by subst hk; exact hc.2 o rfl
  | delete k n =>
    rcases h.delete with ⟨rfl, -⟩ | ⟨o, -, rfl⟩
    · rfl
    · exact hset _ _ fun hk => by subst hk; exact hc.1 n rfl
  | _ => rw [h.objs_of_agentCall (by intro k; simp)]

theorem patchAgentStatus {n : String} {patch : Json} {r : Answer (.patchAgentStatus n patch)}
    (h : S.Faulty s (.patchAgentStatus n patch) r s') :
    s' = s ∨ ∃ o, s.agents n = some o ∧ s' = s.setAgent n (some (o.patchStatus patch)) := by
  cases ho : s.agents n with
  | none =>
    left
    cases h with
    | served => simp only [exec, ho]
    | lost e => rfl
    | applied e => simp only [exec, ho]
  | some o =>
    cases h with
    | served => right; simp only [exec, ho]; exact ⟨o, rfl, rfl⟩
    | lost e => exact .inl rfl
    | applied e => right; simp only [exec, ho]; exact ⟨o, rfl, rfl⟩

end Faulty

end Server

/-- What the nodes do to pods: finish a deletion, or report where a pod runs and how. -/
inductive Kubelet : Cluster → Cluster → Prop where
  | finish {s : Cluster} {n : String} {p : Pod} : s.objs .pod n = some p →
      p.metadata.deletionTimestamp.isSome → Kubelet s (s.set .pod n none)
  | report {s : Cluster} {n : String} {p : Pod} (nodeName : Option String)
      (status : Option PodStatus) : s.objs .pod n = some p →
      Kubelet s (s.set .pod n (some { p with
        spec := p.spec.map fun spec => { spec with nodeName := nodeName }
        status := status }))

end Kube
end AgentHosting
