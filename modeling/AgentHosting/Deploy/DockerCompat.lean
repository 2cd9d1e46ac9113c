import AgentHosting.Lib.Text
import AgentHosting.Kube.Validation
import AgentHosting.Operator.Resources

/-!
# AgentHosting.Deploy.DockerCompat

The wrapper `deploy/scripts/docker-compat.sh`: which `kubectl` command a `docker` command becomes.
Two of its commands resolve what they are given to a pod with `_pod_name`, the third on its own.

* `docker`              — the script, as a function of its arguments.
* `resolves_iff`        — the names that all three commands resolve to the operator's pod.
-/

namespace AgentHosting
namespace Deploy

open Kube

/-! ## The shell -/

/-- `${s%suffix}`, for a literal suffix. -/
def withoutSuffix (s suffix : String) : String := (Operator.stripSuffix s suffix).getD s

/-- `[[ "$s" == start* ]]`. -/
def startsWith (s start : String) : Bool := start.toList.isPrefixOf s.toList

/-- `${s##*pat}`, if there is a match. -/
def afterLast (pat s : String) : Option String :=
  (Text.afterLast pat.toList s.toList).map String.ofList

/-- `$(..)` drops the newlines at the end of what was printed. -/
def printed (s : String) : String :=
  String.ofList (s.toList.reverse.dropWhile (· == '\n')).reverse

/-- `grep -q "State.Status"`; the dot is any character of a line. -/
def mentionsStatus (format : String) : Bool :=
  format.toList.tails.any fun t =>
    "State".toList.isPrefixOf t && t[5]?.any (· ≠ '\n') &&
      "Status".toList.isPrefixOf (t.drop 6)

/-! ## The script -/

/-- `_pod_name`. -/
def podName (name : String) : String :=
  if startsWith (withoutSuffix name "-worker") "agent-" then withoutSuffix name "-worker"
  else "agent-" ++ withoutSuffix name "-worker"

/-- What the script runs, in the namespace of the agents. -/
inductive Kubectl where
  | exec (pod : String) (command : List String)
  /-- `get pod -o jsonpath='{.status.phase}'`, printed in lower case. -/
  | getPhase (pod : String)
  | getJson (pod : String)
  | getColumns (pod columns : String)
  | listColumns (selector : Option String) (columns : String)
deriving DecidableEq

/-- The arguments of `inspect`: the format and the container, the last of each. With a `--format`
at the end `shift 2` shifts nothing, and the loop never ends. -/
def inspectArgs : List String → String → String → Option (String × String)
  | [], format, container => some (format, container)
  | [arg], format, _ => if arg = "--format" then none else some (format, arg)
  | arg :: value :: args, format, container =>
    if arg = "--format" then inspectArgs args value container
    else inspectArgs (value :: args) format arg

/-- The arguments of `ps`: whether to be quiet, and the instance of the last filter that has one. A
`--filter` at the end is like a `--format` there. -/
def psArgs : List String → Bool → String → Option (Bool × String)
  | [], quiet, name => some (quiet, name)
  | [arg], quiet, name =>
    if arg = "-q" then some (true, name)
    else if arg = "--filter" then none
    else some (quiet, name)
  | arg :: value :: args, quiet, name =>
    if arg = "-q" then psArgs (value :: args) true name
    else if arg = "--filter" then
      psArgs args quiet ((afterLast "crabshack_instance=" value).getD name)
    else psArgs (value :: args) quiet name

def psColumns (quiet : Bool) : String :=
  if quiet then "NAME:.metadata.name" else "NAME:.metadata.name,STATUS:.status.phase"

def psCommand (quiet : Bool) (name : String) : Kubectl :=
  if name ≠ "" then .getColumns ("agent-" ++ name) (psColumns quiet)
  else .listColumns (if quiet then some "app=agent" else none) (psColumns quiet)

def inspectCommand (format container : String) : Kubectl :=
  if mentionsStatus format then .getPhase (printed (podName container))
  else .getJson (printed (podName container))

/-- The command the script ends with, or its complaint; none when it never ends. -/
def docker : List String → Option (Except String Kubectl)
  | "exec" :: container :: command => some (.ok (.exec (printed (podName container)) command))
  | ["exec"] => some (.ok (.exec (printed (podName "")) ["exec"]))
  | "inspect" :: args =>
    (inspectArgs args "" "").map fun (format, container) => .ok (inspectCommand format container)
  | "ps" :: args => (psArgs args false "").map fun (quiet, name) => .ok (psCommand quiet name)
  | arg :: _ => some (.error ("Unsupported docker command: " ++ arg))
  | [] => some (.error "Unsupported docker command: ")

/-! ## The loops -/

/-- What comes after arguments that the loop gets through. -/
theorem inspectArgs_append {args : List String} {format container : String}
    {r : String × String} (h : inspectArgs args format container = some r) (rest : List String) :
    inspectArgs (args ++ rest) format container = inspectArgs rest r.1 r.2 := by
  fun_induction inspectArgs args format container with
  | case1 format container =>
    cases h
    rfl
  | case2 format => cases h
  | case3 arg format container hformat =>
    cases h
    cases rest with
    | nil => simp [inspectArgs, hformat]
    | cons value rest => simp [inspectArgs, hformat]
  | case4 value args format container ih => simpa [inspectArgs] using ih h
  | case5 arg value args format container hformat ih => simpa [inspectArgs, hformat] using ih h

theorem psArgs_append {args : List String} {quiet : Bool} {name : String} {r : Bool × String}
    (h : psArgs args quiet name = some r) (rest : List String) :
    psArgs (args ++ rest) quiet name = psArgs rest r.1 r.2 := by
  fun_induction psArgs args quiet name with
  | case1 quiet name =>
    cases h
    rfl
  | case2 quiet name =>
    cases h
    cases rest with
    | nil => simp [psArgs]
    | cons value rest => simp [psArgs]
  | case3 quiet name hq => cases h
  | case4 arg quiet name hq hfilter =>
    cases h
    cases rest with
    | nil => simp [psArgs, hq, hfilter]
    | cons value rest => simp [psArgs, hq, hfilter]
  | case5 value args quiet name ih => simpa [psArgs] using ih h
  | case6 value args quiet name hq ih => simpa [psArgs] using ih h
  | case7 arg value args quiet name hq hfilter ih => simpa [psArgs, hq, hfilter] using ih h

/-! ## Resolution -/

theorem withoutSuffix_cases (s suffix : String) :
    (∃ t, s = t ++ suffix ∧ withoutSuffix s suffix = t) ∨
      ¬ suffix.toList <:+ s.toList ∧ withoutSuffix s suffix = s := by
  unfold withoutSuffix
  cases h : Operator.stripSuffix s suffix with
  | some t => exact .inl ⟨t, Operator.stripSuffix_eq h, rfl⟩
  | none => exact .inr ⟨Operator.stripSuffix_eq_none.mp h, rfl⟩

theorem printed_eq {s : String} (h : '\n' ∉ s.toList) : printed s = s := by
  have hkeep : s.toList.reverse.dropWhile (· == '\n') = s.toList.reverse := by
    cases hs : s.toList.reverse with
    | nil => rfl
    | cons c cs =>
      have hc : c ≠ '\n' := by
        rintro rfl
        exact h (List.mem_reverse.mp (by rw [hs]; exact List.mem_cons_self))
      simp [hc]
  rw [printed, hkeep, List.reverse_reverse, String.ofList_toList]

/-- Neither of the two adjustments of `_pod_name` concerns the name. -/
def Plain (name : String) : Prop :=
  ¬ "agent-".toList <+: name.toList ∧ ¬ "-worker".toList <:+ name.toList

theorem podName_iff (name : String) : podName name = Operator.podName name ↔ Plain name := by
  have hlonger : ∀ s t : String, s.length < t.length → s ≠ t := by
    rintro s t h rfl
    exact Nat.lt_irrefl _ h
  have hagentLength : "agent-".length = 6 := rfl
  have hworkerLength : "-worker".length = 7 := rfl
  unfold podName startsWith Operator.podName Plain
  rcases withoutSuffix_cases name "-worker" with ⟨t, rfl, hstrip⟩ | ⟨hworker, hstrip⟩
  · have hworker : "-worker".toList <:+ (t ++ "-worker").toList := by
      rw [String.toList_append]
      exact List.suffix_append _ _
    rw [hstrip]
    refine ⟨fun heq => ?_, fun hplain => (hplain.2 hworker).elim⟩
    split at heq
    · refine (hlonger _ _ ?_ heq).elim
      simp only [String.length_append, hagentLength, hworkerLength]
      omega
    · refine (hlonger _ _ ?_ heq).elim
      simp only [String.length_append, hagentLength, hworkerLength]
      omega
  · rw [hstrip]
    by_cases hagent : "agent-".toList <+: name.toList
    · rw [if_pos (List.isPrefixOf_iff_prefix.mpr hagent)]
      refine ⟨fun heq => (hlonger _ _ ?_ heq).elim, fun hplain => (hplain.1 hagent).elim⟩
      simp only [String.length_append, hagentLength]
      omega
    · rw [if_neg fun h => hagent (List.isPrefixOf_iff_prefix.mp h)]
      exact ⟨fun _ => ⟨hagent, hworker⟩, fun _ => rfl⟩

/-- The three commands resolve the name to the operator's pod: `exec` with any command, `inspect`
and `ps` after any arguments they get through, `ps` with any text before the name in the filter. -/
structure Resolves (name : String) : Prop where
  exec : ∀ command, docker ("exec" :: name :: command) =
    some (.ok (.exec (Operator.podName name) command))
  inspect : ∀ args format container, inspectArgs args "" "" = some (format, container) →
    docker ("inspect" :: (args ++ [name])) = some (.ok
      (if mentionsStatus format then .getPhase (Operator.podName name)
        else .getJson (Operator.podName name)))
  ps : ∀ args quiet before other, psArgs args false "" = some (quiet, before) →
    docker ("ps" :: (args ++ ["--filter", other ++ "crabshack_instance=" ++ name])) =
      some (.ok (.getColumns (Operator.podName name) (psColumns quiet)))

theorem afterLast_filter {name : String} (h : '=' ∉ name.toList) (before : String) :
    afterLast "crabshack_instance=" (before ++ "crabshack_instance=" ++ name) = some name := by
  have hsplit : "crabshack_instance=".toList = "crabshack_instance".toList ++ ['='] := rfl
  unfold afterLast
  rw [String.toList_append, String.toList_append, hsplit, Text.afterLast_append h, Option.map_some,
    String.ofList_toList]

/-- What is printed of a valid name's pod is its name. -/
theorem printed_podName {name : String} (h : isDns1123Subdomain name = true) :
    printed (podName name) = podName name := by
  have hname : '\n' ∉ name.toList := not_mem_subdomain h (by decide) (by decide)
  have hstrip : '\n' ∉ (withoutSuffix name "-worker").toList := by
    rcases withoutSuffix_cases name "-worker" with ⟨t, ht, hstrip⟩ | ⟨-, hstrip⟩
    · rw [hstrip]
      intro hmem
      rw [ht, String.toList_append] at hname
      exact hname (List.mem_append_left _ hmem)
    · rwa [hstrip]
  apply printed_eq
  unfold podName
  split
  · exact hstrip
  · rw [String.toList_append]
    intro hmem
    rcases List.mem_append.mp hmem with hmem | hmem
    · exact absurd hmem (by decide)
    · exact hstrip hmem

theorem resolves_of_podName {name : String} (h : isDns1123Subdomain name = true)
    (hpod : podName name = Operator.podName name) : Resolves name := by
  have hprinted : printed (podName name) = Operator.podName name := by
    rw [printed_podName h, hpod]
  have hoption : name ≠ "--format" := by
    rintro rfl
    exact absurd h (by decide)
  have hempty : name ≠ "" := by
    rintro rfl
    exact absurd h (by decide)
  have hequals : '=' ∉ name.toList := not_mem_subdomain h (by decide) (by decide)
  constructor
  · intro command
    rw [docker, hprinted]
  · intro args format container hargs
    have hlast : inspectArgs [name] format container = some (format, name) := if_neg hoption
    rw [docker, inspectArgs_append hargs, hlast, ← hprinted]
    rfl
  · intro args quiet before other hargs
    have hlast : psArgs ["--filter", other ++ "crabshack_instance=" ++ name] quiet before =
        some (quiet, name) := by
      simp [psArgs, afterLast_filter hequals]
    have hcommand : psCommand quiet name = .getColumns (Operator.podName name) (psColumns quiet) :=
      if_pos hempty
    rw [docker, psArgs_append hargs, hlast, ← hcommand]
    rfl

/-- A valid name is resolved to the operator's pod exactly when it is plain, and no two plain names
are resolved to one pod. -/
theorem resolves_iff {name : String} (h : isDns1123Subdomain name = true) :
    (Resolves name ↔ Plain name) ∧
      ∀ other, Plain name → Plain other → podName name = podName other → name = other := by
  refine ⟨⟨fun hresolves => ?_, fun hplain => ?_⟩, fun other hplain hother heq => ?_⟩
  · have hexec := hresolves.exec []
    simp only [docker] at hexec
    simp only [Option.some.injEq, Except.ok.injEq, Kubectl.exec.injEq, and_true] at hexec
    rw [printed_podName h] at hexec
    exact (podName_iff name).mp hexec
  · exact resolves_of_podName h ((podName_iff name).mpr hplain)
  · rw [(podName_iff name).mpr hplain, (podName_iff other).mpr hother] at heq
    exact Operator.podName_injective heq

theorem resolves_plain : Resolves "my-app" :=
  (resolves_iff (by decide)).1.mpr ⟨by decide, by decide⟩

/-- Three valid names; a command for one of the last two is run in the pod of the first, and `ps`
does not show it. -/
theorem names_collide :
    (isDns1123Subdomain "x" ∧ isDns1123Subdomain "x-worker" ∧ isDns1123Subdomain "agent-x") ∧
      docker ["exec", "x-worker", "sh"] = some (.ok (.exec (Operator.podName "x") ["sh"])) ∧
      docker ["exec", "agent-x", "sh"] = some (.ok (.exec (Operator.podName "x") ["sh"])) ∧
      docker ["ps", "-q", "--filter", "label=crabshack_instance=agent-x"] =
        some (.ok (.getColumns (Operator.podName "agent-x") "NAME:.metadata.name")) ∧
      ¬ Resolves "x-worker" ∧ ¬ Resolves "agent-x" := by
  refine ⟨by decide, by decide, by decide, by decide, fun h => ?_, fun h => ?_⟩
  · exact absurd (h.exec []) (by decide)
  · exact absurd (h.exec []) (by decide)

end Deploy
end AgentHosting
