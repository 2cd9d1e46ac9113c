import AgentHosting.Lib.Decimal

/-!
# AgentHosting.Lib.Quantity

Resource quantities as Kubernetes writes them: a signed decimal number and a suffix, which is a
power of ten or of 1024 or a decimal exponent.

* `value`     — the number a quantity denotes; `none` where the text is not a quantity.
* `Canonical` — a way to respell quantities that keeps the number.
* `value_nat` — a natural number printed in front of a suffix.
-/

namespace AgentHosting
namespace Quantity

open Decimal

/-- Suffixes that are powers of ten, with their exponents. -/
def decimalSI : List (String × Int) :=
  [("n", -9), ("u", -6), ("m", -3), ("", 0), ("k", 3), ("M", 6), ("G", 9), ("T", 12), ("P", 15),
    ("E", 18)]

/-- Suffixes that are powers of 1024. -/
def binarySI : List (String × Nat) :=
  [("Ki", 1024), ("Mi", 1048576), ("Gi", 1073741824), ("Ti", 1099511627776),
    ("Pi", 1125899906842624), ("Ei", 1152921504606846976)]

def multiplier (suffix : List Char) : Option Rat :=
  match binarySI.lookup (String.ofList suffix) with
  | some m => some m
  | none =>
    match decimalSI.lookup (String.ofList suffix) with
    | some e => some (pow10 e)
    | none => (parseExponent suffix).map pow10

def value (s : String) : Option Rat :=
  let (neg, cs) := splitSign s.toList
  let n := numeral cs
  if n.nonempty then (multiplier n.rest).map fun m => n.scaled neg 0 * m else none

def Valid (s : String) : Prop := (value s).isSome

instance (s : String) : Decidable (Valid s) := inferInstanceAs (Decidable ((value s).isSome = true))

/-- A spelling for every quantity that denotes the same number. -/
structure Canonical where
  spell : String → String
  value_spell : ∀ s, Valid s → value (spell s) = value s

/-- The quantity denotes at least `q`. -/
def AtLeast (q : Rat) (s : String) : Prop := ∃ v ∈ value s, q ≤ v

theorem atLeast_iff {q v : Rat} {s : String} (h : value s = some v) : AtLeast q s ↔ q ≤ v := by
  constructor
  · rintro ⟨v', hv', hle⟩
    obtain rfl := Option.some.inj (h.symm.trans hv')
    exact hle
  · intro hle
    exact ⟨v, h, hle⟩

/-! ## Plain numbers -/

theorem value_of_splitSign {s : String} {ds suffix : List Char} {m : Rat}
    (hsign : splitSign s.toList = (false, ds ++ suffix)) (hne : ds ≠ [])
    (hds : ds.all Char.isDigit = true) (hsuffix : EndsNumber suffix)
    (hm : multiplier suffix = some m) : value s = some (digitsValue ds * m) := by
  have hnonempty : Numeral.nonempty ⟨ds, [], suffix⟩ = true := by simp [Numeral.nonempty, hne]
  simp only [value, hsign, numeral_digits hds hsuffix, hnonempty, if_true, hm, Option.map_some,
    Numeral.scaled_digits]

/-- An unsigned number in front of a suffix. -/
theorem value_digits {ds : List Char} {suffix : String} {m : Rat} (hne : ds ≠ [])
    (hds : ds.all Char.isDigit = true) (hsuffix : EndsNumber suffix.toList)
    (hm : multiplier suffix.toList = some m) :
    value (String.ofList ds ++ suffix) = some (digitsValue ds * m) := by
  refine value_of_splitSign ?_ hne hds hsuffix hm
  rw [String.toList_append, String.toList_ofList]
  cases ds with
  | nil => exact absurd rfl hne
  | cons c ds => exact splitSign_digit (List.all_eq_true.mp hds c (.head _))

theorem value_plus_digits {ds : List Char} {suffix : String} {m : Rat} (hne : ds ≠ [])
    (hds : ds.all Char.isDigit = true) (hsuffix : EndsNumber suffix.toList)
    (hm : multiplier suffix.toList = some m) :
    value (String.ofList ('+' :: ds) ++ suffix) = some (digitsValue ds * m) := by
  refine value_of_splitSign ?_ hne hds hsuffix hm
  rw [String.toList_append, String.toList_ofList]
  rfl

theorem value_nat (n : Nat) {suffix : String} {m : Rat} (hsuffix : EndsNumber suffix.toList)
    (hm : multiplier suffix.toList = some m) : value (toString n ++ suffix) = some (n * m) := by
  have hvalue := value_digits Nat.toDigits_ne_nil (all_isDigit_toDigits n) hsuffix hm
  rwa [digitsValue_toDigits, ← Nat.toString_eq_ofList_toDigits] at hvalue

/-- A decimal exponent is its own suffix. -/
theorem multiplier_of_parseExponent {cs : List Char} {e : Int} (h : parseExponent cs = some e) :
    multiplier cs = some (pow10 e) := by
  have hbinary : binarySI.lookup (String.ofList cs) = none := by
    rw [List.lookup_eq_none_iff]
    intro kv hkv
    have hno : ∀ kv ∈ binarySI, parseExponent kv.1.toList = none := by decide
    rw [bne_iff_ne]
    intro heq
    have hnone := hno kv hkv
    rw [← heq, String.toList_ofList, h] at hnone
    nomatch hnone
  cases cs with
  | nil =>
    obtain rfl := Option.some.inj h
    rfl
  | cons c cs =>
    have hdecimal : decimalSI.lookup (String.ofList (c :: cs)) = none := by
      rw [List.lookup_eq_none_iff]
      intro kv hkv
      have hno : ∀ kv ∈ decimalSI, kv.1.toList = [] ∨ parseExponent kv.1.toList = none := by decide
      rw [bne_iff_ne]
      intro heq
      have hnone := hno kv hkv
      rw [← heq, String.toList_ofList, h] at hnone
      rcases hnone with hnone | hnone <;> nomatch hnone
    simp only [multiplier, hbinary, hdecimal, h, Option.map_some]

end Quantity
end AgentHosting
