import Mathlib.Data.List.Forall2
import AgentHosting.Lib.Decimal
import AgentHosting.Lib.Text
import AgentHosting.Api.Handlers
import AgentHosting.Operator.Format

/-!
# AgentHosting.Cli.Create

The create command of `cli/src/main.rs`: from its `--port` and `--env` arguments to the request it
sends, as the API server reads it. Arguments that do not parse are passed over.

* `parsePort_spelled`, `parseEnv_spelled` — what is spelled as the help says is read back.
* `create_keeps_iff` — the request keeps every argument exactly when all of them parse.
-/

namespace AgentHosting
namespace Cli

open Json Decimal Text

structure EnvVar where
  name : String
  value : String

structure PortSpec where
  name : String
  port : Int32

/-- The arguments of the create command; what clap refuses never gets here. -/
structure CreateArgs where
  name : String
  image : String
  cpu : Option String := none
  memory : Option String := none
  disk : Option String := none
  volumeMount : Option String := none
  securityProfile : String := "restricted"
  ports : List String := []
  envs : List String := []

structure CreateRequest where
  name : String
  image : String
  cpu : Option String
  memory : Option String
  disk : Option String
  volumeMount : Option String
  securityProfile : String
  ports : List PortSpec
  env : List EnvVar

def EnvVar.toJson (e : EnvVar) : Json := object [("name", .str e.name), ("value", .str e.value)]

def PortSpec.toJson (p : PortSpec) : Json := object [("name", .str p.name), ("port", ofI32 p.port)]

def CreateRequest.toJson (r : CreateRequest) : Json :=
  record [
    ("name", some (.str r.name)),
    ("image", some (.str r.image)),
    ("cpu", r.cpu.map .str),
    ("memory", r.memory.map .str),
    ("disk", r.disk.map .str),
    ("volume_mount", r.volumeMount.map .str),
    ("security_profile", some (.str r.securityProfile)),
    ("ports", skipEmpty PortSpec.toJson r.ports),
    ("env", skipEmpty EnvVar.toJson r.env)]

/-! ## Parsing -/

/-- The number of some digits with a sign. -/
def signedValue (neg : Bool) (ds : List Char) : Int :=
  if neg then -(digitsValue ds : Int) else digitsValue ds

/-- `str::parse::<i32>`: a sign or none, at least one digit, in range. -/
def parseI32 (cs : List Char) : Option Int32 :=
  let ds := (splitSign cs).2
  let z := signedValue (splitSign cs).1 ds
  if ds ≠ [] ∧ ds.all Char.isDigit ∧ -2147483648 ≤ z ∧ z < 2147483648 then some (Int32.ofInt z)
  else none

def parseEnv (s : String) : Option EnvVar :=
  (splitOnce '=' s.toList).map fun (name, value) => ⟨String.ofList name, String.ofList value⟩

def parsePort (s : String) : Option PortSpec :=
  match splitOnce ':' s.toList with
  | none => none
  | some (name, port) => (parseI32 port).map fun port => ⟨String.ofList name, port⟩

def createRequest (args : CreateArgs) : CreateRequest where
  name := args.name
  image := args.image
  cpu := args.cpu
  memory := args.memory
  disk := args.disk
  volumeMount := args.volumeMount
  securityProfile := args.securityProfile
  ports := args.ports.filterMap parsePort
  env := args.envs.filterMap parseEnv

/-- The body the command sends; no argument makes it fail before that. -/
def create (args : CreateArgs) : Option Json := some (createRequest args).toJson

/-- The text is a sign or none and at least one digit, and denotes an `i32`. -/
def IsI32 (cs : List Char) : Prop :=
  ∃ sign digits, cs = sign ++ digits ∧ sign ∈ [[], ['+'], ['-']] ∧ digits ≠ [] ∧
    digits.all Char.isDigit ∧ -2147483648 ≤ signedValue (sign = ['-']) digits ∧
    signedValue (sign = ['-']) digits < 2147483648

theorem parseI32_isSome (cs : List Char) : (parseI32 cs).isSome ↔ IsI32 cs := by
  simp only [parseI32, Option.isSome_ite]
  constructor
  · intro hvalid
    obtain ⟨sign, hsign, hcs, hneg⟩ := splitSign_cases cs
    rw [hneg] at hvalid
    exact ⟨sign, _, hcs, hsign, hvalid⟩
  · rintro ⟨sign, digits, rfl, hsign, hvalid⟩
    rw [splitSign_sign hsign hvalid.1 hvalid.2.1]
    exact hvalid

/-- The decimal spelling of a number: a minus sign when it is negative, and digits. -/
theorem toString_int (z : Int) : ∃ sign ∈ [[], ['+'], ['-']],
    (toString z).toList = sign ++ Nat.toDigits 10 z.natAbs ∧
      signedValue (sign = ['-']) (Nat.toDigits 10 z.natAbs) = z := by
  rw [Int.toString_eq_repr, Int.repr_eq_if]
  by_cases hz : 0 ≤ z
  · refine ⟨[], by simp, ?_, ?_⟩
    · have habs : z.toNat = z.natAbs := by omega
      rw [if_pos hz, Nat.toList_repr, habs]
      rfl
    · show ((digitsValue (Nat.toDigits 10 z.natAbs) : Nat) : Int) = z
      rw [digitsValue_toDigits]
      omega
  · refine ⟨['-'], by simp, ?_, ?_⟩
    · have habs : (-z).toNat = z.natAbs := by omega
      rw [if_neg hz, String.toList_append, Nat.toList_repr, habs]
      rfl
    · show -((digitsValue (Nat.toDigits 10 z.natAbs) : Nat) : Int) = z
      rw [digitsValue_toDigits]
      omega

/-- A number is read back from its decimal spelling. -/
theorem parseI32_toString (z : Int32) : parseI32 (toString z.toInt).toList = some z := by
  obtain ⟨sign, hsign, hspelled, hvalue⟩ := toString_int z.toInt
  have hdigits := all_isDigit_toDigits z.toInt.natAbs
  have hlower := z.le_toInt
  have hupper := z.toInt_lt
  rw [hspelled]
  simp only [parseI32, splitSign_sign hsign Nat.toDigits_ne_nil hdigits, hvalue]
  rw [if_pos ⟨Nat.toDigits_ne_nil, hdigits, hlower, hupper⟩, Int32.ofInt_toInt]

theorem parsePort_spelled {name : String} (h : ':' ∉ name.toList) (z : Int32) :
    parsePort (name ++ ":" ++ toString z.toInt) = some ⟨name, z⟩ := by
  have hsplit : splitOnce ':' (name ++ ":" ++ toString z.toInt).toList =
      some (name.toList, (toString z.toInt).toList) := by
    rw [String.toList_append, String.toList_append, List.append_assoc]
    exact splitOnce_append h _
  rw [parsePort, hsplit]
  simp only [parseI32_toString, Option.map_some, String.ofList_toList]

theorem parseEnv_spelled {key : String} (h : '=' ∉ key.toList) (value : String) :
    parseEnv (key ++ "=" ++ value) = some ⟨key, value⟩ := by
  have hsplit : splitOnce '=' (key ++ "=" ++ value).toList = some (key.toList, value.toList) := by
    rw [String.toList_append, String.toList_append, List.append_assoc]
    exact splitOnce_append h _
  rw [parseEnv, hsplit]
  simp only [Option.map_some, String.ofList_toList]

/-- A name, a colon, and an `i32`. -/
def IsPortArg (arg : String) : Prop :=
  ∃ name text, arg.toList = name ++ ':' :: text ∧ ':' ∉ name ∧ IsI32 text

theorem parsePort_isSome (arg : String) : (parsePort arg).isSome ↔ IsPortArg arg := by
  unfold parsePort IsPortArg
  cases hsplit : splitOnce ':' arg.toList with
  | none =>
    rw [splitOnce_eq_none] at hsplit
    constructor
    · intro h
      cases h
    · rintro ⟨name, text, harg, -⟩
      rw [harg] at hsplit
      exact (hsplit (by simp)).elim
  | some parts =>
    obtain ⟨name, text⟩ := parts
    simp only [Option.isSome_map, parseI32_isSome]
    constructor
    · intro h
      obtain ⟨harg, hname⟩ := splitOnce_eq_some.mp hsplit
      exact ⟨name, text, harg, hname, h⟩
    · rintro ⟨name', text', harg, hname, h⟩
      rw [harg, splitOnce_append hname] at hsplit
      cases hsplit
      exact h

theorem parseEnv_isSome (arg : String) : (parseEnv arg).isSome ↔ '=' ∈ arg.toList := by
  rw [parseEnv, Option.isSome_map, Option.isSome_iff_ne_none, ne_eq, splitOnce_eq_none, not_not]

/-! ## The request -/

def PortSpec.toApi (p : PortSpec) : Api.PortSpec := ⟨p.name, p.port⟩

def EnvVar.toApi (e : EnvVar) : Api.EnvVar := ⟨e.name, e.value⟩

/-- What the API server reads of the request. -/
theorem request_received (r : CreateRequest) :
    Api.CreateInstanceRequest.fromJson r.toJson = some {
      image := r.image
      name := some r.name
      cpu := r.cpu
      memory := r.memory
      disk := r.disk
      volumeMount := r.volumeMount
      securityProfile := some r.securityProfile
      ports := r.ports.map PortSpec.toApi
      env := r.env.map EnvVar.toApi } := by
  apply Api.CreateInstanceRequest.fromJson_obj
  case image => exact field_present (string?_str _) rfl
  case name | securityProfile => exact field_present (opt_string?_str _) rfl
  case cpu | memory | disk | volumeMount => exact field_skip opt_string?_str (Option.join_some ..)
  case ports =>
    refine field_skipEmpty Api.PortSpec.fromJson_toJson ?_
    rw [skipEmpty_map]
    exact Option.join_some ..
  case env =>
    refine field_skipEmpty Api.EnvVar.fromJson_toJson ?_
    rw [skipEmpty_map]
    exact Option.join_some ..
  all_goals rfl

/-- The port of an argument spelled `NAME:PORT`. -/
def PortOf (arg : String) (p : Api.PortSpec) : Prop :=
  ∀ (name : String) (z : Int32), ':' ∉ name.toList → arg = name ++ ":" ++ toString z.toInt →
    p = ⟨name, z⟩

/-- The variable of an argument spelled `KEY=VALUE`. -/
def VariableOf (arg : String) (e : Api.EnvVar) : Prop :=
  ∀ key value : String, '=' ∉ key.toList → arg = key ++ "=" ++ value → e = ⟨key, value⟩

/-- The request that is sent, if one is, has a port for every port argument and a variable for
every environment argument, in the order given. -/
def KeepsArguments (args : CreateArgs) (sent : Option Json) : Prop :=
  ∀ body, sent = some body → ∃ r, Api.CreateInstanceRequest.fromJson body = some r ∧
    List.Forall₂ PortOf args.ports r.ports ∧ List.Forall₂ VariableOf args.envs r.env

/-- Passing over what does not parse keeps every argument exactly when all of them parse. -/
theorem forall₂_filterMap {α β : Type} {f : α → Option β} {R : α → β → Prop}
    (hf : ∀ a b, f a = some b → R a b) (args : List α) :
    List.Forall₂ R args (args.filterMap f) ↔ ∀ a ∈ args, (f a).isSome := by
  constructor
  · intro h
    exact List.filterMap_length_eq_length.mp h.length_eq.symm
  · intro h
    induction args with
    | nil => exact .nil
    | cons a args ih =>
      obtain ⟨b, hb⟩ := Option.isSome_iff_exists.mp (h a List.mem_cons_self)
      rw [List.filterMap_cons_some hb]
      exact .cons (hf a b hb) (ih fun a' ha' => h a' (List.mem_cons_of_mem a ha'))

theorem ports_kept (args : List String) :
    List.Forall₂ PortOf args ((args.filterMap parsePort).map PortSpec.toApi) ↔
      ∀ a ∈ args, IsPortArg a := by
  have hport : ∀ a p, (parsePort a).map PortSpec.toApi = some p → PortOf a p := by
    rintro a p ha name z hname rfl
    rw [parsePort_spelled hname] at ha
    exact (Option.some.inj ha).symm
  rw [List.map_filterMap, forall₂_filterMap hport]
  simp only [Option.isSome_map, parsePort_isSome]

theorem variables_kept (args : List String) :
    List.Forall₂ VariableOf args ((args.filterMap parseEnv).map EnvVar.toApi) ↔
      ∀ a ∈ args, '=' ∈ a.toList := by
  have hvariable : ∀ a e, (parseEnv a).map EnvVar.toApi = some e → VariableOf a e := by
    rintro a e ha key value hkey rfl
    rw [parseEnv_spelled hkey] at ha
    exact (Option.some.inj ha).symm
  rw [List.map_filterMap, forall₂_filterMap hvariable]
  simp only [Option.isSome_map, parseEnv_isSome]

/-- What is sent keeps the arguments only if nothing was passed over. -/
theorem parsed_of_keeps {args : CreateArgs} (h : KeepsArguments args (create args)) :
    (∀ a ∈ args.ports, IsPortArg a) ∧ ∀ a ∈ args.envs, '=' ∈ a.toList := by
  obtain ⟨r, hr, hports, henv⟩ := h _ rfl
  rw [request_received] at hr
  cases hr
  exact ⟨(ports_kept args.ports).mp hports, (variables_kept args.envs).mp henv⟩

/-- The command keeps its arguments exactly when every port argument is a name, a colon and an
`i32`, and every environment argument has an equals sign. -/
theorem create_keeps_iff (args : CreateArgs) :
    KeepsArguments args (create args) ↔
      (∀ a ∈ args.ports, IsPortArg a) ∧ ∀ a ∈ args.envs, '=' ∈ a.toList := by
  constructor
  · exact parsed_of_keeps
  · rintro ⟨hports, henv⟩ body hbody
    cases hbody
    exact ⟨_, request_received _, (ports_kept args.ports).mpr hports,
      (variables_kept args.envs).mpr henv⟩

/-- A port without a number is dropped; the probes go to the next one. -/
theorem bare_port_dropped :
    ((createRequest { name := "a", image := "agent:v1", ports := ["ssh", "http:8080"] }).ports.map
        fun p => (p.name, p.port)) = [("http", 8080)] ∧
      ¬ KeepsArguments { name := "a", image := "agent:v1", ports := ["ssh", "http:8080"] }
        (create { name := "a", image := "agent:v1", ports := ["ssh", "http:8080"] }) := by
  refine ⟨by decide, fun h => ?_⟩
  obtain ⟨hports, -⟩ := parsed_of_keeps h
  have hsome := (parsePort_isSome "ssh").mpr (hports "ssh" List.mem_cons_self)
  exact absurd hsome (by decide)

end Cli
end AgentHosting
