import AgentHosting.System.Admission

/-!
# AgentHosting.System.Environment

The environment of the container that comes out of a create request. The handler appends the
platform's variables to those of the request, and the pod builder appends one more; of several
entries of one name the last one counts.

* `effective`            — the value a container sees.
* `effective_append`     — what is appended comes first.
* `created_environment`  — the value of every variable, in terms of the request.
-/

namespace AgentHosting
namespace System

open Kube Operator Prog

/-- The value of a variable in a container: that of the last entry of its name. -/
def effective (env : List Kube.EnvVar) (v : String) : Option String :=
  (env.reverse.find? fun e => e.name == v).map fun e => e.value.getD ""

theorem effective_append (xs ys : List Kube.EnvVar) (v : String) :
    effective (xs ++ ys) v = (effective ys v).or (effective xs v) := by
  unfold effective
  rw [List.reverse_append, List.find?_append, Option.map_or]

/-- An entry that is there when its value is given. -/
theorem effective_given (name : String) (given : Option String) (v : String) :
    effective (given.map fun value => { name := name, value := some value }).toList v =
      if v = name then given else none := by
  cases given with
  | none =>
    split
    · rfl
    · rfl
  | some value =>
    by_cases h : v = name
    · simp [effective, h]
    · have hne : ¬ name = v := fun heq => h heq.symm
      simp [effective, h, hne]

/-- The entry of an Agent's environment in the container. -/
def containerVar (e : Operator.EnvVar) : Kube.EnvVar := { name := e.name, value := some e.value }

/-- The value a list of requested variables gives. -/
def lastRequested (env : List Api.EnvVar) (v : String) : Option String :=
  (env.reverse.find? fun e => e.name == v).map (·.value)

theorem effective_requested (env : List Api.EnvVar) (v : String) :
    effective ((env.map Api.EnvVar.toOperator).map containerVar) v = lastRequested env v := by
  unfold effective lastRequested
  rw [List.map_map, ← List.map_reverse, List.find?_map, Option.map_map]
  rfl

/-- Where a container finds the value of a variable, in terms of the request. -/
def requestedValue (req : Api.CreateInstanceRequest) (v : String) : Option String :=
  (if v = "SSH_PUBKEY" then req.sshPubkey else none).or
    ((if v = "NEARAI_API_KEY" then req.nearaiApiKey else none).or
      ((if v = "NEARAI_API_URL" then req.nearaiApiUrl else none).or (lastRequested req.env v)))

theorem containerEnv_eq (spec : AgentSpec) :
    containerEnv spec = spec.env.map containerVar ++
      (spec.sshPubkey.map fun pubkey => { name := "SSH_PUBKEY", value := some pubkey }).toList := by
  unfold containerEnv
  cases spec.sshPubkey <;> rfl

/-- The environment of the container of a requested spec. -/
theorem effective_containerEnv (req : Api.CreateInstanceRequest) (v : String) :
    effective (containerEnv (Api.requestedSpec req).toOperator) v = requestedValue req v := by
  have hgiven : ∀ (name : String) (given : Option String),
      ((given.map fun value => (⟨name, value⟩ : Api.EnvVar)).toList.map
        Api.EnvVar.toOperator).map containerVar =
        (given.map fun value => { name := name, value := some value }).toList := by
    intro name given
    cases given <;> rfl
  have henv : (Api.requestedSpec req).toOperator.env.map containerVar =
      (req.env.map Api.EnvVar.toOperator).map containerVar ++
        (req.nearaiApiKey.map fun key => { name := "NEARAI_API_KEY", value := some key }).toList ++
        (req.nearaiApiUrl.map fun url =>
          { name := "NEARAI_API_URL", value := some url }).toList := by
    rw [← hgiven, ← hgiven, ← List.map_append, ← List.map_append, ← List.map_append,
      ← List.map_append]
    rfl
  rw [containerEnv_eq, henv, effective_append, effective_append, effective_append,
    effective_given, effective_given, effective_given, effective_requested]
  show (if v = "SSH_PUBKEY" then req.sshPubkey else none).or _ = _
  -- no variable is both the key and the url, so their order does not matter
  by_cases hkey : v = "NEARAI_API_KEY"
  · have hurl : v ≠ "NEARAI_API_URL" := by
      rw [hkey]
      decide
    rw [requestedValue, if_neg hurl, Option.none_or, Option.none_or]
  · rw [requestedValue, if_neg hkey, Option.none_or, Option.none_or]

/-! ## The pod -/

/-- The environment of the only container of a pod. -/
def podEnv (pod : Pod) : Option (List Kube.EnvVar) :=
  match pod.spec.map (·.containers) with
  | some [c] => some (c.env.getD [])
  | _ => none

theorem podEnv_buildPod (agent : Agent) :
    podEnv (buildPod agent) = some (containerEnv agent.spec) := by
  show some ((if (containerEnv agent.spec).isEmpty then none
    else some (containerEnv agent.spec)).getD []) = _
  cases containerEnv agent.spec <;> rfl

/-- Whatever happens while a request is served: the container of the Agent it created sees the
platform's values where they are given, and otherwise the last ones of the request. -/
theorem created_environment {S : Server} {env : Cluster → Cluster → Prop} {uuid : String}
    {req : Api.CreateInstanceRequest} {s s' : Cluster} {tr : List (Event Cluster Call Answer)}
    {r : Except Api.AppError Api.Stream}
    (hexec : Exec S.Faulty env (Api.createInstance uuid req).run s tr r s') {o : AgentObject}
    (ho : Creates tr o) {agent : Agent} (hagent : Results o agent) :
    ∃ entries, podEnv (buildPod agent) = some entries ∧
      ∀ v, effective entries v = requestedValue req v := by
  obtain rfl := creates_eq hexec ho
  refine ⟨_, podEnv_buildPod agent, fun v => ?_⟩
  rw [hagent.eq.2, effective_containerEnv]

/-- A request that names one variable twice, and one that the platform sets. -/
def repeatedRequest : Api.CreateInstanceRequest where
  image := "agent:v1"
  name := some "a"
  sshPubkey := some "key"
  env := [⟨"A", "1"⟩, ⟨"SSH_PUBKEY", "other"⟩, ⟨"A", "2"⟩]

theorem created_environment_repeated : ∃ agent entries,
    Results (createdObject "" repeatedRequest) agent ∧ podEnv (buildPod agent) = some entries ∧
      effective entries "A" = some "2" ∧ effective entries "SSH_PUBKEY" = some "key" := by
  have hexec : Exec Server.verbatim.Faulty Alone
      (Api.createInstance "" repeatedRequest).run Cluster.empty _ _ _ :=
    Server.exec_of_run ..
  have hagent : Results (createdObject "" repeatedRequest)
      ⟨{ name := some "a" }, (Api.requestedSpec repeatedRequest).toOperator, none⟩ :=
    ⟨rfl, Operator.AgentSpec.fromJson_of_api (Api.AgentSpec.fromJson_toJson _)⟩
  obtain ⟨entries, hentries, hvalues⟩ := created_environment hexec (accepted_creates hexec) hagent
  exact ⟨_, entries, hagent, hentries, hvalues "A", hvalues "SSH_PUBKEY"⟩

end System
end AgentHosting
