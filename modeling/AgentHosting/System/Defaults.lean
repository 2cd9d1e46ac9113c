import AgentHosting.System.Admission

/-!
# AgentHosting.System.Defaults

What is left out of a create request against what is left out of an Agent that is applied directly.
The handler fills the gaps of the one, the CRD's serde defaults those of the other.

* `GivenFields`              — the optional fields that both ways of creating an Agent know.
* `requestedSpec_applied`    — the two agree in every field but the security profile.
* `created_as_applied_iff`   — they agree altogether when the security profile is given.
-/

namespace AgentHosting
namespace System

open Kube Json Prog

/-- The fields of a spec that a request can give under the same name, as far as they are given. -/
structure GivenFields where
  cpu : Option String := none
  memory : Option String := none
  disk : Option String := none
  volumeMount : Option String := none
  securityProfile : Option String := none
  env : Option (List Api.EnvVar) := none
  enableDocker : Option Bool := none
  command : Option (List String) := none
  ports : Option (List Api.PortSpec) := none
  sshPubkey : Option String := none
  nodeId : Option String := none
  ports_ne : ports ≠ some [] := by simp

namespace GivenFields

def members (g : GivenFields) : List (String × Option Json) := [
  ("cpu", g.cpu.map .str),
  ("memory", g.memory.map .str),
  ("disk", g.disk.map .str),
  ("volume_mount", g.volumeMount.map .str),
  ("security_profile", g.securityProfile.map .str),
  ("env", g.env.map fun env => .arr (env.map Api.EnvVar.toJson)),
  ("enable_docker", g.enableDocker.map .bool),
  ("command", g.command.map fun command => .arr (command.map .str)),
  ("ports", g.ports.map fun ports => .arr (ports.map Api.PortSpec.toJson)),
  ("ssh_pubkey", g.sshPubkey.map .str),
  ("node_id", g.nodeId.map .str)]

/-- The body of `POST /instances`. -/
def request (g : GivenFields) (name image : String) : Json :=
  record (("name", some (.str name)) :: ("image", some (.str image)) :: g.members)

/-- The spec of an Agent applied directly. -/
def applied (g : GivenFields) (image : String) : Json :=
  record (("image", some (.str image)) :: g.members)

/-! ## What the two are read as -/

def requestRead (g : GivenFields) (name image : String) : Api.CreateInstanceRequest where
  image := image
  name := some name
  cpu := g.cpu
  memory := g.memory
  disk := g.disk
  volumeMount := g.volumeMount
  securityProfile := g.securityProfile
  env := g.env.getD []
  enableDocker := g.enableDocker.getD false
  command := g.command.getD []
  ports := g.ports.getD []
  sshPubkey := g.sshPubkey
  nodeId := g.nodeId

def specRead (g : GivenFields) (image : String) : Api.AgentSpec where
  image := image
  cpu := g.cpu.getD Api.defaultCpu
  memory := g.memory.getD Api.defaultMemory
  disk := g.disk.getD Api.defaultDisk
  state := Api.defaultState
  volumeMount := g.volumeMount.getD Api.defaultVolumeMount
  securityProfile := g.securityProfile.getD Api.defaultSecurityProfile
  env := g.env.getD []
  enableDocker := g.enableDocker.getD false
  ports := g.ports.getD Api.defaultPorts
  command := g.command.getD []
  sshPubkey := g.sshPubkey
  serviceType := none
  nodeId := g.nodeId

theorem request_fromJson (g : GivenFields) (name image : String) :
    Api.CreateInstanceRequest.fromJson (g.request name image) =
      some (g.requestRead name image) := by
  apply Api.CreateInstanceRequest.fromJson_obj
  case image => exact field_present (string?_str _) rfl
  case name => exact field_present (opt_string?_str _) rfl
  case cpu | memory | disk | volumeMount | securityProfile | sshPubkey | nodeId =>
    exact field_skip opt_string?_str (Option.join_some ..)
  case env => exact field_getD (seq_map Api.EnvVar.fromJson_toJson) (Option.join_some ..)
  case ports => exact field_getD (seq_map Api.PortSpec.fromJson_toJson) (Option.join_some ..)
  case enableDocker => exact field_getD bool?_bool (Option.join_some ..)
  case command => exact field_getD (seq_map string?_str) (Option.join_some ..)
  all_goals rfl

theorem applied_fromJson (g : GivenFields) (image : String) :
    Api.AgentSpec.fromJson (g.applied image) = some (g.specRead image) := by
  refine Api.AgentSpec.fromJson_obj.mpr ⟨?_, ?_, ?_, ?_, ?_, ?_, ?_, ?_, ?_, ?_, ?_, ?_, ?_, ?_⟩
  · exact field_present (string?_str _) rfl
  · exact field_getD string?_str (Option.join_some ..)
  · exact field_getD string?_str (Option.join_some ..)
  · exact field_getD string?_str (Option.join_some ..)
  · rfl
  · exact field_getD string?_str (Option.join_some ..)
  · exact field_getD string?_str (Option.join_some ..)
  · exact field_getD (seq_map Api.EnvVar.fromJson_toJson) (Option.join_some ..)
  · exact field_getD bool?_bool (Option.join_some ..)
  · exact field_getD (seq_map Api.PortSpec.fromJson_toJson) (Option.join_some ..)
  · exact field_getD (seq_map string?_str) (Option.join_some ..)
  · exact field_skip opt_string?_str (Option.join_some ..)
  · rfl
  · exact field_skip opt_string?_str (Option.join_some ..)

/-- The handler fills the gaps as the CRD does, in every field but one. -/
theorem requestedSpec_applied (g : GivenFields) (name image : String) :
    Api.requestedSpec (g.requestRead name image) =
      { g.specRead image with securityProfile := g.securityProfile.getD "trusted" } := by
  have hports : (if (g.ports.getD []).isEmpty then Api.defaultPorts else g.ports.getD []) =
      g.ports.getD Api.defaultPorts := by
    cases hg : g.ports with
    | none => rfl
    | some ports =>
      have hne : ports ≠ [] := fun h => g.ports_ne (by rw [hg, h])
      rw [Option.getD_some, Option.getD_some, if_neg (by simpa using hne)]
  have henv : g.env.getD [] ++ [] ++ [] = g.env.getD [] := by
    rw [List.append_nil, List.append_nil]
  show ({ g.specRead image with
    securityProfile := g.securityProfile.getD "trusted"
    env := g.env.getD [] ++ [] ++ []
    ports := if (g.ports.getD []).isEmpty then Api.defaultPorts else g.ports.getD [] } :
      Api.AgentSpec) = _
  rw [henv, hports]
  rfl

end GivenFields

/-! ## The two ways -/

/-- Creating an Agent by a request and applying it yields one spec, in either program's reading. -/
def CreatedAsApplied (g : GivenFields) (name image : String) : Prop :=
  ∃ req spec, Api.CreateInstanceRequest.fromJson (g.request name image) = some req ∧
    Api.AgentSpec.fromJson (g.applied image) = some spec ∧
    ∀ (S : Server) (env : Cluster → Cluster → Prop) (uuid : String) (s s' : Cluster)
      (tr : List (Event Cluster Call Answer)) (r : Except Api.AppError Api.Stream)
      (o : AgentObject), Exec S.Faulty env (Api.createInstance uuid req).run s tr r s' →
      Creates tr o → Api.AgentSpec.fromJson o.spec = some spec ∧
        Operator.AgentSpec.fromJson o.spec = Operator.AgentSpec.fromJson (g.applied image)

/-- On an empty cluster the request is accepted. -/
theorem given_creates (g : GivenFields) (name image : String) :
    ∃ s' tr r, Exec Server.verbatim.Faulty Alone
        (Api.createInstance "" (g.requestRead name image)).run Cluster.empty tr r s' ∧
      Creates tr (createdObject "" (g.requestRead name image)) := by
  have hexec := Server.exec_of_run .verbatim Alone
    (Api.createInstance "" (g.requestRead name image)).run Cluster.empty
  exact ⟨_, _, _, hexec, accepted_creates hexec⟩

theorem profile_given (g : GivenFields) (name image : String) (h : CreatedAsApplied g name image) :
    g.securityProfile.isSome := by
  obtain ⟨req, spec, hreq, hspec, hruns⟩ := h
  rw [g.request_fromJson] at hreq
  rw [g.applied_fromJson] at hspec
  obtain rfl := Option.some.inj hreq
  obtain rfl := Option.some.inj hspec
  obtain ⟨s', tr, r, hexec, hcreates⟩ := given_creates g name image
  obtain ⟨hsame, -⟩ := hruns _ _ _ _ _ _ _ _ hexec hcreates
  have hread := Api.AgentSpec.fromJson_toJson (Api.requestedSpec (g.requestRead name image))
  have heq := Option.some.inj (hread.symm.trans hsame)
  rw [g.requestedSpec_applied] at heq
  have hprofile : g.securityProfile.getD "trusted" = g.securityProfile.getD "restricted" :=
    congrArg Api.AgentSpec.securityProfile heq
  cases hg : g.securityProfile with
  | some profile => rfl
  | none =>
    rw [hg] at hprofile
    exact absurd hprofile (by decide)

theorem created_as_applied_iff (g : GivenFields) (name image : String) :
    CreatedAsApplied g name image ↔ g.securityProfile.isSome := by
  refine ⟨profile_given g name image, fun hgiven => ?_⟩
  obtain ⟨profile, hprofile⟩ := Option.isSome_iff_exists.mp hgiven
  refine ⟨_, _, g.request_fromJson name image, g.applied_fromJson image, ?_⟩
  intro S env uuid s s' tr r o hexec ho
  obtain rfl := creates_eq hexec ho
  have hspec : Api.requestedSpec (g.requestRead name image) = g.specRead image := by
    rw [g.requestedSpec_applied, hprofile]
    simp [GivenFields.specRead, hprofile]
  have hread : Api.AgentSpec.fromJson (Api.requestedSpec (g.requestRead name image)).toJson =
      some (g.specRead image) := by
    rw [Api.AgentSpec.fromJson_toJson, hspec]
  refine ⟨hread, ?_⟩
  rw [Operator.AgentSpec.fromJson_of_api (g.applied_fromJson image)]
  exact Operator.AgentSpec.fromJson_of_api hread

/-- A request without a security profile is trusted; the same Agent applied is restricted. -/
theorem omitted_profile_trusted : ¬ CreatedAsApplied {} "a" "agent:v1" :=
  fun h => Bool.false_ne_true (profile_given {} "a" "agent:v1" h)

end System
end AgentHosting
