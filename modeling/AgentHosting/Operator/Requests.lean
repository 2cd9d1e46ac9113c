import Mathlib.Data.Char
import Mathlib.Tactic.Linarith
import Mathlib.Tactic.NormNum
import Mathlib.Tactic.Positivity
import AgentHosting.Lib.Quantity
import AgentHosting.Operator.Resources

/-!
# AgentHosting.Operator.Requests

The resource requests of a pod against its limits, as amounts. A limit is the text of the spec; the
request is what two parsers made of that text, a quarter of it where they understood it and a
quarter of a constant where they did not.

* `cpu_within_iff`, `memory_within_iff` — one resource.
* `requests_within_limits_iff`          — the container: which spellings the API server accepts.
-/

namespace AgentHosting

open Decimal

/-! ## Reading the text -/

namespace Operator

open AgentHosting.Quantity

theorem parseU64_digits {t : String} {n : Nat} (h : parseU64 t = some n) :
    ∃ ds, (t = String.ofList ds ∨ t = String.ofList ('+' :: ds)) ∧ ds ≠ [] ∧
      ds.all Char.isDigit = true ∧ digitsValue ds = n := by
  obtain ⟨⟨hne, hall, -⟩, hn⟩ := Option.ite_none_right_eq_some.mp h
  refine ⟨_, ?_, hne, hall, Option.some.inj hn⟩
  split
  · next cs hcs =>
    right
    rw [← hcs, String.ofList_toList]
  · left
    rw [String.ofList_toList]

/-- Where the number parses, the text denotes it in the suffix's unit. -/
theorem value_of_parseU64 {s suffix t : String} {n : Nat} {m : Rat}
    (hstrip : stripSuffix s suffix = some t) (h : parseU64 t = some n)
    (hsuffix : EndsNumber suffix.toList) (hm : multiplier suffix.toList = some m) :
    value s = some (n * m) := by
  obtain ⟨ds, ht, hne, hall, rfl⟩ := parseU64_digits h
  rw [stripSuffix_eq hstrip]
  rcases ht with rfl | rfl
  · exact value_digits hne hall hsuffix hm
  · exact value_plus_digits hne hall hsuffix hm

/-- Lower case does not make a letter out of what starts a number. -/
theorem not_number_of_toLower {c d : Char} (h : c.toLower = d) (hd : d.isDigit = false)
    (hdot : d ≠ '.') : c.isDigit = false ∧ c ≠ '.' := by
  unfold Char.toLower at h
  split at h
  · next hupper =>
    constructor
    · simp only [Char.isDigit, Bool.and_eq_false_iff, decide_eq_false_iff_not]
      right
      have hge : 65 ≤ c.val.toNat := UInt32.le_iff_toNat_le.mp hupper.1
      intro hle
      have hle' : c.val.toNat ≤ 57 := UInt32.le_iff_toNat_le.mp hle
      omega
    · rintro rfl
      exact absurd hupper.1 (by decide)
  · subst h
    exact ⟨hd, hdot⟩

theorem numeral_of_word {cs : List Char} {d : Char} {word : List Char}
    (h : cs.map Char.toLower = d :: word) (hd : d.isDigit = false) (hdot : d ≠ '.') :
    (numeral cs).nonempty = false := by
  cases cs with
  | nil => nomatch h
  | cons c cs =>
    apply numeral_empty
    intro c' hc'
    obtain rfl := Option.some.inj hc'
    exact not_number_of_toLower (List.cons.inj h).1 hd hdot

/-- On a quantity, `str::parse::<f64>` reads the number the quantity denotes. -/
theorem parseF64_value {s : String} {v : Rat} {f : F64} (hv : value s = some v)
    (hf : parseF64 s = some f) : f = .fin v := by
  rcases hsplit : splitSign s.toList with ⟨neg, cs⟩
  simp only [value, hsplit] at hv
  obtain ⟨hnonempty, hv⟩ := Option.ite_none_right_eq_some.mp hv
  have hword : ∀ d word, cs.map Char.toLower = d :: word → d.isDigit = false → d ≠ '.' → False :=
    fun d word h hd hdot => by
      rw [numeral_of_word h hd hdot] at hnonempty
      exact Bool.false_ne_true hnonempty
  simp only [parseF64, hsplit] at hf
  rw [if_neg, if_neg, if_pos hnonempty] at hf
  · obtain ⟨e, he, rfl⟩ := Option.map_eq_some_iff.mp hf
    rw [multiplier_of_parseExponent he] at hv
    rw [← Option.some.inj hv, Numeral.scaled_add]
  · intro h
    exact hword 'n' _ h (by decide) (by decide)
  · rintro (h | h)
    · exact hword 'i' _ h (by decide) (by decide)
    · exact hword 'i' _ h (by decide) (by decide)

/-! ## Amounts -/

/-- The amount requested of a resource does not exceed the limit. -/
def Within (r : Kube.ResourceRequirements) (key : String) : Prop :=
  ∃ request limit q, (r.requests.getD []).get key = some request ∧
    (r.limits.getD []).get key = some limit ∧ value request = some q ∧ AtLeast q limit

theorem within_iff {r : Kube.ResourceRequirements} {key request limit : String} {q : Rat}
    (hrequest : (r.requests.getD []).get key = some request)
    (hlimit : (r.limits.getD []).get key = some limit) (hq : value request = some q) :
    Within r key ↔ AtLeast q limit := by
  constructor
  · rintro ⟨request', limit', q', hrequest', hlimit', hq', h⟩
    obtain rfl := Option.some.inj (hrequest.symm.trans hrequest')
    obtain rfl := Option.some.inj (hlimit.symm.trans hlimit')
    obtain rfl := Option.some.inj (hq.symm.trans hq')
    exact h
  · intro h
    exact ⟨request, limit, q, hrequest, hlimit, hq, h⟩

theorem within_cpu (spec : AgentSpec) :
    Within (containerResources spec) "cpu" ↔
      AtLeast ((parseCpuMillis spec.cpu / 4 : Nat) * pow10 (-3)) spec.cpu := by
  refine within_iff rfl rfl (value_nat _ ?_ rfl)
  rintro c ⟨⟩
  decide

theorem within_memory (spec : AgentSpec) :
    Within (containerResources spec) "memory" ↔
      AtLeast (((parseMemoryMi spec.memory).1 / 4 : Nat) * 1048576) spec.memory := by
  refine within_iff rfl rfl (value_nat _ ?_ rfl)
  rintro c ⟨⟩
  decide

/-! ## CPU -/

/-- Whole millicores, a number of cores that is not negative, or at least the constant's quarter. -/
def CpuFits (cpu : String) : Prop :=
  (∃ t, stripSuffix cpu "m" = some t ∧ (parseU64 t).isSome) ∨
    (stripSuffix cpu "m" = none ∧ (parseF64 cpu).isSome ∧ AtLeast 0 cpu) ∨ AtLeast (1 / 4) cpu

theorem quarter_millis : ((1000 / 4 : Nat) : Rat) * pow10 (-3) = 1 / 4 := by decide +kernel

theorem div_four_le (n : Nat) : ((n / 4 : Nat) : Rat) ≤ n := by
  exact_mod_cast Nat.div_le_self n 4

/-- A quarter of the truncated millicores is at most the amount, unless it is negative. -/
theorem toU64_quarter_le (v : Rat) :
    (((F64.fin v).scale 1000).toU64 / 4 : Nat) * pow10 (-3) ≤ v ↔ 0 ≤ v := by
  have hmilli : pow10 (-3) = 1 / 1000 := by decide +kernel
  rw [hmilli]
  constructor
  · intro h
    exact le_trans (by positivity) h
  · intro h
    have hfloor : (((v * 1000).floor.toNat : Nat) : Rat) ≤ v * 1000 := by
      have hnonneg : 0 ≤ (v * 1000).floor := Rat.le_floor_iff.mpr (by push_cast; positivity)
      calc (((v * 1000).floor.toNat : Nat) : Rat)
          = ((v * 1000).floor : Rat) := by exact_mod_cast Int.toNat_of_nonneg hnonneg
        _ ≤ v * 1000 := Rat.floor_le _
    have hmin : (((F64.fin v).scale 1000).toU64 : Rat) ≤ v * 1000 :=
      le_trans (by exact_mod_cast Nat.min_le_left _ _) hfloor
    have hquarter := (div_four_le ((F64.fin v).scale 1000).toU64).trans hmin
    linarith

/-- A text that neither parser reads is requested by the constant. -/
theorem cpu_unparsed {cpu : String} (hmillis : parseCpuMillis cpu = 1000)
    (hstrip : ∀ t, stripSuffix cpu "m" = some t → parseU64 t = none)
    (hplain : stripSuffix cpu "m" = none → parseF64 cpu = none) :
    AtLeast ((parseCpuMillis cpu / 4 : Nat) * pow10 (-3)) cpu ↔ CpuFits cpu := by
  rw [hmillis, quarter_millis]
  constructor
  · exact fun h => .inr (.inr h)
  · rintro (⟨t, ht, hsome⟩ | ⟨hnone, hsome, -⟩ | h)
    · rw [hstrip t ht] at hsome
      cases hsome
    · rw [hplain hnone] at hsome
      cases hsome
    · exact h

theorem cpu_within_iff {spec : AgentSpec} (hvalid : Valid spec.cpu) :
    Within (containerResources spec) "cpu" ↔ CpuFits spec.cpu := by
  obtain ⟨v, hv⟩ := Option.isSome_iff_exists.mp hvalid
  rw [within_cpu]
  cases hstrip : stripSuffix spec.cpu "m" with
  | some t =>
    cases hparse : parseU64 t with
    | some n =>
      have hmillis : parseCpuMillis spec.cpu = n := by simp [parseCpuMillis, hstrip, hparse]
      have hends : EndsNumber "m".toList := by rintro c ⟨⟩; decide
      have hvalue := value_of_parseU64 (m := pow10 (-3)) hstrip hparse hends rfl
      refine iff_of_true ?_ (.inl ⟨t, hstrip, by rw [hparse]; rfl⟩)
      rw [hmillis, atLeast_iff hvalue]
      exact mul_le_mul_of_nonneg_right (div_four_le n) (pow10_pos _).le
    | none =>
      refine cpu_unparsed (by simp [parseCpuMillis, hstrip, hparse]) (fun t' ht' => ?_)
        fun hnone => ?_
      · rwa [← Option.some.inj (hstrip.symm.trans ht')]
      · cases hstrip.symm.trans hnone
  | none =>
    cases hparse : parseF64 spec.cpu with
    | some f =>
      obtain rfl := parseF64_value hv hparse
      have hmillis : parseCpuMillis spec.cpu = ((F64.fin v).scale 1000).toU64 := by
        simp [parseCpuMillis, hstrip, hparse]
      rw [hmillis, CpuFits, atLeast_iff hv, atLeast_iff hv, atLeast_iff hv, toU64_quarter_le]
      constructor
      · exact fun h => .inr (.inl ⟨hstrip, by rw [hparse]; rfl, h⟩)
      · rintro (⟨t, ht, -⟩ | ⟨-, -, h⟩ | h)
        · cases hstrip.symm.trans ht
        · exact h
        · linarith
    | none =>
      refine cpu_unparsed (by simp [parseCpuMillis, hstrip, hparse]) (fun t ht => ?_)
        fun _ => hparse
      cases hstrip.symm.trans ht

/-! ## Memory -/

/-- The text in front of the unit, for the four units the operator knows. -/
def memoryCount (memory : String) : Option String :=
  (stripSuffix memory "Gi").or ((stripSuffix memory "Mi").or
    ((stripSuffix memory "G").or (stripSuffix memory "M")))

/-- The request where the number is not understood, in bytes. -/
def memoryFallback (memory : String) : Rat :=
  if (stripSuffix memory "Gi").isSome then 536870912
  else if (stripSuffix memory "Mi").isSome then 134217728
  else if (stripSuffix memory "G").isSome then 536870912
  else 134217728

/-- A whole number of a known unit, or at least the constant's quarter. -/
def MemoryFits (memory : String) : Prop :=
  (∃ t, memoryCount memory = some t ∧ (parseU64 t).isSome) ∨ AtLeast (memoryFallback memory) memory

/-- A text without a number in front of a known unit is requested by the constant. -/
theorem memory_unparsed {memory : String} {mi : Nat}
    (hcount : ∀ t, memoryCount memory = some t → parseU64 t = none)
    (hfallback : ((mi / 4 : Nat) : Rat) * 1048576 = memoryFallback memory) :
    AtLeast ((mi / 4 : Nat) * 1048576) memory ↔ MemoryFits memory := by
  rw [hfallback]
  constructor
  · exact .inr
  · rintro (⟨t, ht, hsome⟩ | h)
    · rw [hcount t ht] at hsome
      cases hsome
    · exact h

/-- One unit: a number that parses is requested up to a quarter, any other by the constant. -/
theorem memory_unit {memory t suffix : String} {m : Rat} {mi : Nat}
    (hcount : memoryCount memory = some t) (hstrip : stripSuffix memory suffix = some t)
    (hends : EndsNumber suffix.toList) (hm : multiplier suffix.toList = some m)
    (hparsed : ∀ n, parseU64 t = some n → ((mi / 4 : Nat) : Rat) * 1048576 ≤ n * m)
    (hfallback : parseU64 t = none → ((mi / 4 : Nat) : Rat) * 1048576 = memoryFallback memory) :
    AtLeast ((mi / 4 : Nat) * 1048576) memory ↔ MemoryFits memory := by
  cases hparse : parseU64 t with
  | some n =>
    refine iff_of_true ?_ (.inl ⟨t, hcount, by rw [hparse]; rfl⟩)
    rw [atLeast_iff (value_of_parseU64 hstrip hparse hends hm)]
    exact hparsed n hparse
  | none =>
    refine memory_unparsed (fun t' ht' => ?_) (hfallback hparse)
    rwa [← Option.some.inj (hcount.symm.trans ht')]

section Unit

variable {memory t suffix : String} {m : Rat}

/-- A unit counted in GiB: the product may wrap, which makes the request smaller. -/
theorem memory_giga (hgiga : IsGiga memory t) (hcount : memoryCount memory = some t)
    (hstrip : stripSuffix memory suffix = some t) (hends : EndsNumber suffix.toList)
    (hm : multiplier suffix.toList = some m) (hunit : 268435456 ≤ m)
    (hfallback : memoryFallback memory = 536870912) :
    AtLeast (((parseMemoryMi memory).1 / 4 : Nat) * 1048576) memory ↔ MemoryFits memory := by
  have hmi : (parseMemoryMi memory).1 = (parseU64 t).getD 2 * 1024 % u64Size := by
    rw [parseMemoryMi_giga hgiga]
    rfl
  rw [hmi]
  refine memory_unit hcount hstrip hends hm (fun n hn => ?_) fun hn => ?_
  · have hquarter : n * 1024 % u64Size / 4 * 1048576 ≤ n * 268435456 := by
      unfold u64Size
      omega
    rw [hn]
    calc ((n * 1024 % u64Size / 4 : Nat) : Rat) * 1048576
        ≤ n * 268435456 := by exact_mod_cast hquarter
      _ ≤ n * m := mul_le_mul_of_nonneg_left hunit n.cast_nonneg
  · rw [hn, hfallback]
    norm_num [u64Size]

/-- A unit counted in MiB. -/
theorem memory_mega (hmega : IsMega memory t) (hcount : memoryCount memory = some t)
    (hstrip : stripSuffix memory suffix = some t) (hends : EndsNumber suffix.toList)
    (hm : multiplier suffix.toList = some m) (hunit : 262144 ≤ m)
    (hfallback : memoryFallback memory = 134217728) :
    AtLeast (((parseMemoryMi memory).1 / 4 : Nat) * 1048576) memory ↔ MemoryFits memory := by
  have hmi : (parseMemoryMi memory).1 = (parseU64 t).getD 512 := by
    rw [parseMemoryMi_mega hmega]
  rw [hmi]
  refine memory_unit hcount hstrip hends hm (fun n hn => ?_) fun hn => ?_
  · have hquarter : n / 4 * 1048576 ≤ n * 262144 := by omega
    rw [hn]
    calc ((n / 4 : Nat) : Rat) * 1048576
        ≤ n * 262144 := by exact_mod_cast hquarter
      _ ≤ n * m := mul_le_mul_of_nonneg_left hunit n.cast_nonneg
  · rw [hn, hfallback]
    norm_num

end Unit

theorem memory_within_iff (spec : AgentSpec) :
    Within (containerResources spec) "memory" ↔ MemoryFits spec.memory := by
  rw [within_memory]
  cases hGi : stripSuffix spec.memory "Gi" with
  | some t =>
    have hgiga : IsGiga spec.memory t := .inl (stripSuffix_eq hGi)
    refine memory_giga (m := 1073741824) hgiga ?_ hGi (by rintro c ⟨⟩; decide) rfl (by norm_num) ?_
    · simp [memoryCount, hGi]
    · simp [memoryFallback, hGi]
  | none =>
    cases hMi : stripSuffix spec.memory "Mi" with
    | some t =>
      have hmega : IsMega spec.memory t := .inl (stripSuffix_eq hMi)
      refine memory_mega (m := 1048576) hmega ?_ hMi (by rintro c ⟨⟩; decide) rfl (by norm_num) ?_
      · simp [memoryCount, hGi, hMi]
      · simp [memoryFallback, hGi, hMi]
    | none =>
      cases hG : stripSuffix spec.memory "G" with
      | some t =>
        have hgiga : IsGiga spec.memory t := .inr (stripSuffix_eq hG)
        have hunit : 268435456 ≤ pow10 9 := by decide +kernel
        refine memory_giga (m := pow10 9) hgiga ?_ hG (by rintro c ⟨⟩; decide) rfl hunit ?_
        · simp [memoryCount, hGi, hMi, hG]
        · simp [memoryFallback, hGi, hMi, hG]
      | none =>
        cases hM : stripSuffix spec.memory "M" with
        | some t =>
          have hmega : IsMega spec.memory t := .inr (stripSuffix_eq hM)
          have hunit : 262144 ≤ pow10 6 := by decide +kernel
          refine memory_mega (m := pow10 6) hmega ?_ hM (by rintro c ⟨⟩; decide) rfl hunit ?_
          · simp [memoryCount, hGi, hMi, hG, hM]
          · simp [memoryFallback, hGi, hMi, hG]
        | none =>
          have hmi : (parseMemoryMi spec.memory).1 = 512 := by
            simp [parseMemoryMi, hGi, hMi, hG, hM]
          rw [hmi]
          refine memory_unparsed (fun t ht => ?_) ?_
          · simp [memoryCount, hGi, hMi, hG, hM] at ht
          · rw [memoryFallback, hGi, hMi, hG]
            norm_num

/-! ## The pod -/

/-- What the API server demands of a pod's resources: no request above its limit. -/
def RequestsWithinLimits (p : Kube.Pod) : Prop :=
  ∀ c ∈ (p.spec.map (·.containers)).getD [], ∀ key ∈ ["cpu", "memory"],
    Within (c.resources.getD {}) key

/-- The API server takes the pod's resources for exactly these spellings. -/
theorem requests_within_limits_iff (agent : Agent) (hcpu : Valid agent.spec.cpu) :
    RequestsWithinLimits (buildPod agent) ↔
      CpuFits agent.spec.cpu ∧ MemoryFits agent.spec.memory := by
  rw [← cpu_within_iff hcpu, ← memory_within_iff agent.spec]
  constructor
  · intro h
    have hcontainer := h (buildContainer agent.spec) (.head _)
    exact ⟨hcontainer "cpu" (.head _), hcontainer "memory" (.tail _ (.head _))⟩
  · rintro ⟨hcpu, hmemory⟩ c hc key hkey
    obtain rfl := List.mem_singleton.mp hc
    rcases List.mem_cons.mp hkey with rfl | hkey
    · exact hcpu
    · obtain rfl := List.mem_singleton.mp hkey
      exact hmemory

/-- An Agent of the given size, for concrete runs. -/
def Agent.sized (cpu memory : String) : Agent :=
  let agent := Agent.sample "a" "u" .running
  { agent with spec := { agent.spec with cpu := cpu, memory := memory } }

theorem default_size_fits : RequestsWithinLimits (buildPod (Agent.sized "1" "4Gi")) := by
  have hone : value "1" = some 1 := by decide +kernel
  refine (requests_within_limits_iff (Agent.sized "1" "4Gi") (by decide +kernel)).mpr ⟨?_, ?_⟩
  · exact .inr (.inr ((atLeast_iff hone).mpr (by norm_num)))
  · exact .inl ⟨"4", by decide +kernel, by decide +kernel⟩

/-- A quarter of a GiB: the parser knows no fractions and requests twice the limit. -/
theorem fraction_exceeds_limit :
    Valid (Agent.sized "1" "0.25Gi").spec.cpu ∧ Valid (Agent.sized "1" "0.25Gi").spec.memory ∧
      ¬ RequestsWithinLimits (buildPod (Agent.sized "1" "0.25Gi")) := by
  refine ⟨by decide +kernel, by decide +kernel, fun h => ?_⟩
  have hquarter : value "0.25Gi" = some 268435456 := by decide +kernel
  have hcount : memoryCount "0.25Gi" = some "0.25" := by decide +kernel
  have hfits : MemoryFits "0.25Gi" :=
    (memory_within_iff (Agent.sized "1" "0.25Gi").spec).mp
      (h (buildContainer (Agent.sized "1" "0.25Gi").spec) (.head _) "memory" (.tail _ (.head _)))
  rcases hfits with ⟨t, ht, hsome⟩ | hle
  · obtain rfl := Option.some.inj (hcount.symm.trans ht)
    exact absurd hsome (by decide +kernel)
  · have hfallback : memoryFallback "0.25Gi" = 536870912 := by decide +kernel
    rw [hfallback, atLeast_iff hquarter] at hle
    exact absurd hle (by norm_num)

end Operator
end AgentHosting
