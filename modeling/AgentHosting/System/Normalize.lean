import AgentHosting.Operator.Memory
import AgentHosting.System.Admission

/-!
# AgentHosting.System.Normalize

What `normalize_resource` makes of a memory limit before the operator's `parse_memory_mi` reads it.
The API completes a bare `G` or `M` and leaves every other text alone; to the operator the bare
unit and the complete one are the same.

* `normalizeResource_cases` — what becomes of a text.
* `normalize_agrees`        — a limit and its normal form are requested alike.
-/

namespace AgentHosting
namespace System

open Operator
open Api (endsWith normalizeResource)

/-! ## The normal form -/

/-- The API asks for a suffix that the operator takes off. -/
theorem endsWith_eq (s suffix : String) : endsWith s suffix = (stripSuffix s suffix).isSome := by
  unfold endsWith stripSuffix
  by_cases h : suffix.toList <:+ s.toList
  · rw [if_pos h, List.isSuffixOf_iff_suffix.mpr h]
    rfl
  · rw [if_neg h, Bool.eq_false_iff.mpr (mt List.isSuffixOf_iff_suffix.mp h)]
    rfl

theorem normalizeResource_giga (t : String) : normalizeResource (t ++ "G") = t ++ "Gi" := by
  have hGi : stripSuffix (t ++ "G") "Gi" = none := stripSuffix_other t (by decide) (by decide)
  have hspelled : t ++ "G" ++ "i" = t ++ "Gi" := by
    rw [String.append_assoc]
    rfl
  simp [normalizeResource, endsWith_eq, stripSuffix_append, hGi, hspelled]

theorem normalizeResource_mega (t : String) : normalizeResource (t ++ "M") = t ++ "Mi" := by
  have hG : stripSuffix (t ++ "M") "G" = none := stripSuffix_other t (by decide) (by decide)
  have hMi : stripSuffix (t ++ "M") "Mi" = none := stripSuffix_other t (by decide) (by decide)
  have hspelled : t ++ "M" ++ "i" = t ++ "Mi" := by
    rw [String.append_assoc]
    rfl
  simp [normalizeResource, endsWith_eq, stripSuffix_append, hG, hMi, hspelled]

theorem normalizeResource_other {s : String} (hG : stripSuffix s "G" = none)
    (hM : stripSuffix s "M" = none) : normalizeResource s = s := by
  simp [normalizeResource, endsWith_eq, hG, hM]

theorem normalizeResource_cases (s : String) :
    (∃ t, s = t ++ "G" ∧ normalizeResource s = t ++ "Gi") ∨
      (∃ t, s = t ++ "M" ∧ normalizeResource s = t ++ "Mi") ∨ normalizeResource s = s := by
  cases hG : stripSuffix s "G" with
  | some t =>
    obtain rfl := stripSuffix_eq hG
    exact .inl ⟨t, rfl, normalizeResource_giga t⟩
  | none =>
    cases hM : stripSuffix s "M" with
    | some t =>
      obtain rfl := stripSuffix_eq hM
      exact .inr (.inl ⟨t, rfl, normalizeResource_mega t⟩)
    | none => exact .inr (.inr (normalizeResource_other hG hM))

/-- A complete unit is left as it is. -/
theorem normalizeResource_complete (t : String) {unit : String} (h : unit = "Gi" ∨ unit = "Mi") :
    normalizeResource (t ++ unit) = t ++ unit := by
  rcases h with rfl | rfl
  · exact normalizeResource_other (stripSuffix_other t (by decide) (by decide))
      (stripSuffix_other t (by decide) (by decide))
  · exact normalizeResource_other (stripSuffix_other t (by decide) (by decide))
      (stripSuffix_other t (by decide) (by decide))

theorem normalizeResource_normal (s : String) :
    normalizeResource (normalizeResource s) = normalizeResource s := by
  rcases normalizeResource_cases s with ⟨t, -, hs⟩ | ⟨t, -, hs⟩ | hs
  · rw [hs, normalizeResource_complete t (.inl rfl)]
  · rw [hs, normalizeResource_complete t (.inr rfl)]
  · rw [hs, hs]

theorem parseMemoryMi_normal (s : String) :
    parseMemoryMi (normalizeResource s) = parseMemoryMi s := by
  rcases normalizeResource_cases s with ⟨t, rfl, hs⟩ | ⟨t, rfl, hs⟩ | hs
  · rw [hs, parseMemoryMi_giga (.inl rfl), parseMemoryMi_giga (.inr rfl)]
  · rw [hs, parseMemoryMi_mega (.inl rfl), parseMemoryMi_mega (.inr rfl)]
  · rw [hs]

/-! ## The request -/

theorem created_memory {uuid : String} {req : Api.CreateInstanceRequest} {agent : Agent}
    (h : Results (createdObject uuid req) agent) :
    agent.spec.memory = ((req.memLimit.map normalizeResource).or req.memory).getD "4Gi" := by
  rw [h.eq.2]
  rfl

/-- The request for memory depends on the spec's text only through the parser. -/
theorem requested_memory_congr {a b : Agent}
    (h : parseMemoryMi a.spec.memory = parseMemoryMi b.spec.memory) :
    requested (buildPod a) "memory" = requested (buildPod b) "memory" := by
  rw [requested_memory, requested_memory, h]

/-- Normalizing is idempotent and changes nothing for the parser. Whether a text is given as the
limit, which is normalized, or in the memory field, which is not, the pods request the same. -/
theorem normalize_agrees (s : String) :
    normalizeResource (normalizeResource s) = normalizeResource s ∧
      parseMemoryMi (normalizeResource s) = parseMemoryMi s ∧
      (∀ agent : Agent, requested (buildPod (agent.withMemory (normalizeResource s))) "memory" =
        requested (buildPod (agent.withMemory s)) "memory") ∧
      ∀ (uuid uuid' : String) (limited plain : Api.CreateInstanceRequest) (a b : Agent),
        limited.memLimit = some s → plain.memLimit = none → plain.memory = some s →
        Results (createdObject uuid limited) a → Results (createdObject uuid' plain) b →
          parseMemoryMi a.spec.memory = parseMemoryMi b.spec.memory ∧
            requested (buildPod a) "memory" = requested (buildPod b) "memory" := by
  refine ⟨normalizeResource_normal s, parseMemoryMi_normal s, fun agent => ?_, ?_⟩
  · exact requested_memory_congr (parseMemoryMi_normal s)
  · intro uuid uuid' limited plain a b hlimit hnone hmemory ha hb
    have hnormal : a.spec.memory = normalizeResource s := by
      rw [created_memory ha, hlimit]
      rfl
    have htext : b.spec.memory = s := by
      rw [created_memory hb, hnone, hmemory]
      rfl
    have hparsed : parseMemoryMi a.spec.memory = parseMemoryMi b.spec.memory := by
      rw [hnormal, htext, parseMemoryMi_normal]
    exact ⟨hparsed, requested_memory_congr hparsed⟩

def limitedRequest : Api.CreateInstanceRequest := { namedRequest "a" with memLimit := some "2G" }

def plainRequest : Api.CreateInstanceRequest := { namedRequest "b" with memory := some "2G" }

/-- The two Agents differ in the text of their memory and not in what they request. -/
theorem normalize_agrees_giga : ∃ a b,
    Results (createdObject "" limitedRequest) a ∧ Results (createdObject "" plainRequest) b ∧
      a.spec.memory = "2Gi" ∧ b.spec.memory = "2G" ∧
      requested (buildPod a) "memory" = requested (buildPod b) "memory" := by
  have ha : Results (createdObject "" limitedRequest)
      ⟨{ name := some "a" }, (Api.requestedSpec limitedRequest).toOperator, none⟩ :=
    ⟨rfl, AgentSpec.fromJson_of_api (Api.AgentSpec.fromJson_toJson _)⟩
  have hb : Results (createdObject "" plainRequest)
      ⟨{ name := some "b" }, (Api.requestedSpec plainRequest).toOperator, none⟩ :=
    ⟨rfl, AgentSpec.fromJson_of_api (Api.AgentSpec.fromJson_toJson _)⟩
  have hagree :=
    (normalize_agrees "2G").2.2.2 "" "" limitedRequest plainRequest _ _ rfl rfl rfl ha hb
  exact ⟨_, _, ha, hb, by decide +kernel, rfl, hagree.2⟩

end System
end AgentHosting
