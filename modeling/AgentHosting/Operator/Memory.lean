import AgentHosting.Operator.Requests

/-!
# AgentHosting.Operator.Memory

The memory spec of an Agent as `parse_memory_mi` reads it. The product of its two GiB branches is
unchecked: a count from `2^54` on does not fit, and the release profile wraps it around.

* `parseU64_spells`  — a `u64` is read back from its decimal spellings.
* `readExactly_iff`  — the texts that are read exactly.
* `memory_exact_iff` — those, and when a larger limit means no smaller a request.
-/

namespace AgentHosting
namespace Operator

open Decimal AgentHosting.Quantity

/-! ## Numbers -/

/-- The text spells `n` in decimal, leading zeros allowed. -/
structure Spells (t : String) (n : Nat) : Prop where
  nonempty : t.toList ≠ []
  digits : t.toList.all Char.isDigit = true
  number : digitsValue t.toList = n

theorem spells_toString (n : Nat) : Spells (toString n) n := by
  have hdigits : (toString n).toList = Nat.toDigits 10 n := Nat.toList_repr
  refine ⟨?_, ?_, ?_⟩
  · rw [hdigits]
    exact Nat.toDigits_ne_nil
  · rw [hdigits]
    exact all_isDigit_toDigits n
  · rw [hdigits, digitsValue_toDigits]

/-- A `u64` is read back from each of its spellings. -/
theorem parseU64_spells {t : String} {n : Nat} (h : Spells t n) (hn : n < u64Size) :
    parseU64 t = some n := by
  have hsign : ∀ cs, t.toList ≠ '+' :: cs := by
    intro cs hcs
    have hplus := List.all_eq_true.mp h.digits '+' (by rw [hcs]; exact .head _)
    exact absurd hplus (by decide)
  obtain ⟨hne, hdigits, rfl⟩ := h
  -- without a sign, the digits are the whole text
  simp only [parseU64]
  exact if_pos ⟨hne, hdigits, hn⟩

/-- `2^54`: so many GiB are `2^64` MiB. -/
def gigaLimit : Nat := 18014398509481984

theorem overflowingMul_fits (n : Nat) : (overflowingMul n 1024).2 = false ↔ n < gigaLimit := by
  show decide (u64Size ≤ n * 1024) = false ↔ n < gigaLimit
  rw [decide_eq_false_iff_not, u64Size, gigaLimit]
  omega

theorem overflowingMul_exact {n : Nat} (h : n < gigaLimit) :
    overflowingMul n 1024 = (n * 1024, false) := by
  have hfits := (overflowingMul_fits n).mpr h
  have hvalue : (overflowingMul n 1024).1 = n * 1024 := by
    unfold gigaLimit at h
    simp only [overflowingMul, u64Size]
    omega
  exact Prod.ext hvalue hfits

/-- A quarter of the product, in the release profile. -/
theorem overflowingMul_quarter (n : Nat) :
    (overflowingMul n 1024).1 / 4 = n % gigaLimit * 256 := by
  simp only [overflowingMul, u64Size, gigaLimit]
  omega

/-! ## Exactness -/

/-- The text is read without an overflow, and a `u64` in front of a unit as the number of MiB. -/
structure ReadExactly (s : String) : Prop where
  fits : (parseMemoryMi s).2 = false
  giga : ∀ t n, IsGiga s t → Spells t n → n < u64Size → (parseMemoryMi s).1 = n * 1024
  mega : ∀ t n, IsMega s t → Spells t n → n < u64Size → (parseMemoryMi s).1 = n

/-- The count of GiB, if the text has one that parses, is below `2^54`. -/
def GigaFits (s : String) : Prop :=
  ∀ t n, IsGiga s t → parseU64 t = some n → n < gigaLimit

theorem parseMemoryMi_fits {s : String} (h : GigaFits s) : (parseMemoryMi s).2 = false := by
  by_cases hgiga : ∃ t, IsGiga s t
  · obtain ⟨t, ht⟩ := hgiga
    rw [parseMemoryMi_giga ht, overflowingMul_fits]
    cases hparse : parseU64 t with
    | some n => exact h t n ht hparse
    | none => decide
  · by_cases hmega : ∃ t, IsMega s t
    · obtain ⟨t, ht⟩ := hmega
      rw [parseMemoryMi_mega ht]
    · rw [parseMemoryMi_other (not_exists.mp hgiga) (not_exists.mp hmega)]

theorem readExactly_iff (s : String) : ReadExactly s ↔ GigaFits s := by
  constructor
  · intro h t n ht hparse
    have hfits := h.fits
    rw [parseMemoryMi_giga ht, hparse] at hfits
    exact (overflowingMul_fits n).mp hfits
  · intro h
    refine ⟨parseMemoryMi_fits h, fun t n ht hspells hn => ?_, fun t n ht hspells hn => ?_⟩
    · have hparse := parseU64_spells hspells hn
      rw [parseMemoryMi_giga ht, hparse]
      exact congrArg Prod.fst (overflowingMul_exact (h t n ht hparse))
    · rw [parseMemoryMi_mega ht, parseU64_spells hspells hn]
      rfl

/-! ## Requests -/

/-- What the container of a pod requests of a resource. -/
def requested (p : Kube.Pod) (key : String) : Option String :=
  (p.spec.bind (·.containers.head?)).bind fun c =>
    ((c.resources.getD {}).requests.getD []).get key

def Agent.withMemory (agent : Agent) (memory : String) : Agent :=
  { agent with spec := { agent.spec with memory := memory } }

theorem requested_memory (agent : Agent) :
    requested (buildPod agent) "memory" =
      some (toString ((parseMemoryMi agent.spec.memory).1 / 4) ++ "Mi") := rfl

/-- The requests of the two pods for memory, as amounts. -/
def RequestsAtMost (p p' : Kube.Pod) : Prop :=
  ∃ request request' q q', requested p "memory" = some request ∧
    requested p' "memory" = some request' ∧ value request = some q ∧ value request' = some q' ∧
    q ≤ q'

theorem value_mi (k : Nat) : value (toString k ++ "Mi") = some ((k : Rat) * 1048576) := by
  have hends : EndsNumber "Mi".toList := by
    rintro c ⟨⟩
    decide
  exact value_nat k hends rfl

theorem requestsAtMost_iff (agent agent' : Agent) :
    RequestsAtMost (buildPod agent) (buildPod agent') ↔
      (parseMemoryMi agent.spec.memory).1 / 4 ≤ (parseMemoryMi agent'.spec.memory).1 / 4 := by
  have hscale : ∀ k k' : Nat, (k : Rat) * 1048576 ≤ k' * 1048576 ↔ k ≤ k' := fun k k' => by
    rw [mul_le_mul_iff_left₀ (by norm_num), Nat.cast_le]
  constructor
  · rintro ⟨request, request', q, q', hrequest, hrequest', hq, hq', hle⟩
    rw [requested_memory] at hrequest hrequest'
    obtain rfl := Option.some.inj hrequest
    obtain rfl := Option.some.inj hrequest'
    obtain rfl := Option.some.inj ((value_mi _).symm.trans hq)
    obtain rfl := Option.some.inj ((value_mi _).symm.trans hq')
    exact (hscale _ _).mp hle
  · intro hle
    exact ⟨_, _, _, _, requested_memory agent, requested_memory agent', value_mi _, value_mi _,
      (hscale _ _).mpr hle⟩

/-- Both limits are read without an overflow, and the first has no larger a request. -/
def InOrder (agent : Agent) (small large : String) : Prop :=
  (parseMemoryMi small).2 = false ∧ (parseMemoryMi large).2 = false ∧
    RequestsAtMost (buildPod (agent.withMemory small)) (buildPod (agent.withMemory large))

section Pair

variable {t u : String} {n m : Nat}

theorem parseMemoryMi_spelled (h : Spells t n) (hn : n < u64Size) :
    parseMemoryMi (t ++ "Gi") = overflowingMul n 1024 := by
  rw [parseMemoryMi_giga (.inl rfl), parseU64_spells h hn]
  rfl

theorem requestsAtMost_spelled (agent : Agent) (ht : Spells t n) (hu : Spells u m)
    (hn : n < u64Size) (hm : m < u64Size) :
    RequestsAtMost (buildPod (agent.withMemory (t ++ "Gi")))
      (buildPod (agent.withMemory (u ++ "Gi"))) ↔ n % gigaLimit ≤ m % gigaLimit := by
  rw [requestsAtMost_iff]
  show (parseMemoryMi (t ++ "Gi")).1 / 4 ≤ (parseMemoryMi (u ++ "Gi")).1 / 4 ↔ _
  rw [parseMemoryMi_spelled ht hn, parseMemoryMi_spelled hu hm, overflowingMul_quarter,
    overflowingMul_quarter]
  omega

theorem inOrder_spelled (agent : Agent) (ht : Spells t n) (hu : Spells u m) (hle : n ≤ m)
    (hm : m < u64Size) : InOrder agent (t ++ "Gi") (u ++ "Gi") ↔ m < gigaLimit := by
  have hn : n < u64Size := hle.trans_lt hm
  rw [InOrder, requestsAtMost_spelled agent ht hu hn hm, parseMemoryMi_spelled ht hn,
    parseMemoryMi_spelled hu hm, overflowingMul_fits, overflowingMul_fits]
  constructor
  · rintro ⟨-, hfits, -⟩
    exact hfits
  · intro hfits
    refine ⟨hle.trans_lt hfits, hfits, ?_⟩
    rwa [Nat.mod_eq_of_lt (hle.trans_lt hfits), Nat.mod_eq_of_lt hfits]

end Pair

/-- A text is read exactly if its count of GiB, where it has one, is below `2^54`. Up to there a
larger count has no smaller a request; beyond, the wrapped requests follow the remainders. -/
theorem memory_exact_iff (s : String) (agent : Agent) :
    (ReadExactly s ↔ GigaFits s) ∧
      ∀ (t u : String) (n m : Nat), Spells t n → Spells u m → n ≤ m → m < u64Size →
        (InOrder agent (t ++ "Gi") (u ++ "Gi") ↔ m < gigaLimit) ∧
        (RequestsAtMost (buildPod (agent.withMemory (t ++ "Gi")))
          (buildPod (agent.withMemory (u ++ "Gi"))) ↔ n % gigaLimit ≤ m % gigaLimit) := by
  refine ⟨readExactly_iff s, fun t u n m ht hu hle hm => ⟨?_, ?_⟩⟩
  · exact inOrder_spelled agent ht hu hle hm
  · exact requestsAtMost_spelled agent ht hu (hle.trans_lt hm) hm

theorem memory_in_order : InOrder (Agent.sample "a" "u" .running) "1Gi" "4Gi" := by
  have hone : Spells "1" 1 := spells_toString 1
  have hfour : Spells "4" 4 := spells_toString 4
  have horder := (memory_exact_iff "4Gi" (Agent.sample "a" "u" .running)).2 "1" "4" 1 4 hone hfour
    (by decide) (by decide)
  exact horder.1.mpr (by decide)

/-- `2^54` GiB are read as nothing, and requested as less than one. -/
theorem memory_wraps :
    Spells "18014398509481984" 18014398509481984 ∧
      parseMemoryMi "18014398509481984Gi" = (0, true) ∧ ¬ ReadExactly "18014398509481984Gi" ∧
      ¬ RequestsAtMost (buildPod ((Agent.sample "a" "u" .running).withMemory "1Gi"))
        (buildPod ((Agent.sample "a" "u" .running).withMemory "18014398509481984Gi")) := by
  have hwraps : parseMemoryMi "18014398509481984Gi" = (0, true) := by decide +kernel
  have hone : parseMemoryMi "1Gi" = (1024, false) := by decide +kernel
  refine ⟨spells_toString 18014398509481984, hwraps, fun h => ?_, fun h => ?_⟩
  · have hfits := h.fits
    rw [hwraps] at hfits
    cases hfits
  · rw [requestsAtMost_iff] at h
    have hle : (parseMemoryMi "1Gi").1 / 4 ≤ (parseMemoryMi "18014398509481984Gi").1 / 4 := h
    rw [hone, hwraps] at hle
    exact absurd hle (by decide)

end Operator
end AgentHosting
