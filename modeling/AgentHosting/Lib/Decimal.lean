import Mathlib.Algebra.Order.Field.Power
import Mathlib.Algebra.Order.Ring.Rat

/-!
# AgentHosting.Lib.Decimal

Decimal numerals as text: digits with an optional point, read from the front of a list of
characters, and their exact value.

* `pow10_add`            — exponents add up.
* `digitsValue_toDigits` — the digits a natural number is printed with have its value.
* `numeral_digits`       — digits in front of another kind of text are read as they are.
-/

namespace AgentHosting
namespace Decimal

def digitsValue (ds : List Char) : Nat := ds.foldl (fun n d => 10 * n + (d.toNat - '0'.toNat)) 0

def pow10 : Int → Rat
  | .ofNat n => (Nat.pow 10 n : Nat)
  | .negSucc n => 1 / (Nat.pow 10 (n + 1) : Nat)

/-- A sign and the rest. -/
def splitSign : List Char → Bool × List Char
  | '-' :: cs => (true, cs)
  | '+' :: cs => (false, cs)
  | cs => (false, cs)

/-- The digits before and after the point, and the text that follows. -/
structure Numeral where
  whole : List Char
  frac : List Char
  rest : List Char

def numeral (cs : List Char) : Numeral :=
  let (frac, rest) := match cs.dropWhile Char.isDigit with
    | '.' :: ds => (ds.takeWhile Char.isDigit, ds.dropWhile Char.isDigit)
    | ds => ([], ds)
  ⟨cs.takeWhile Char.isDigit, frac, rest⟩

namespace Numeral

def nonempty (n : Numeral) : Bool := n.whole ≠ [] ∨ n.frac ≠ []

/-- The number, times `10 ^ e`. -/
def scaled (n : Numeral) (neg : Bool) (e : Int) : Rat :=
  let m : Rat := digitsValue (n.whole ++ n.frac)
  (if neg then -m else m) * pow10 (e - (n.frac.length : Int))

end Numeral

/-- An exponent suffix, or nothing. -/
def parseExponent : List Char → Option Int
  | [] => some 0
  | c :: cs =>
    let (neg, ds) := splitSign cs
    if (c = 'e' ∨ c = 'E') ∧ ds ≠ [] ∧ ds.all Char.isDigit then
      some (if neg then -(digitsValue ds : Int) else digitsValue ds)
    else none

/-! ## Values -/

theorem pow10_eq_zpow (e : Int) : pow10 e = (10 : Rat) ^ e := by
  cases e with
  | ofNat n =>
    show ((Nat.pow 10 n : Nat) : Rat) = (10 : Rat) ^ (n : Int)
    rw [zpow_natCast]
    exact Nat.cast_pow 10 n
  | negSucc n =>
    show 1 / ((Nat.pow 10 (n + 1) : Nat) : Rat) = _
    rw [zpow_negSucc, one_div]
    exact congrArg _ (Nat.cast_pow 10 (n + 1))

theorem pow10_pos (e : Int) : 0 < pow10 e := by
  rw [pow10_eq_zpow]
  exact zpow_pos (by norm_num) e

theorem pow10_add (a b : Int) : pow10 (a + b) = pow10 a * pow10 b := by
  simp only [pow10_eq_zpow]
  exact zpow_add₀ (by norm_num) a b

theorem digitsValue_toDigits (n : Nat) : digitsValue (Nat.toDigits 10 n) = n :=
  Nat.ofDigitChars_eq_foldl.symm.trans Nat.ofDigitChars_ten_toDigits

theorem all_isDigit_toDigits (n : Nat) : (Nat.toDigits 10 n).all Char.isDigit = true :=
  List.all_eq_true.mpr fun _ hc => Nat.isDigit_of_mem_toDigits (by decide) (by decide) hc

theorem splitSign_digit {c : Char} {cs : List Char} (hc : c.isDigit = true) :
    splitSign (c :: cs) = (false, c :: cs) := by
  have hminus : c ≠ '-' := by rintro rfl; exact absurd hc (by decide)
  have hplus : c ≠ '+' := by rintro rfl; exact absurd hc (by decide)
  unfold splitSign
  split
  · next heq => exact absurd (List.cons.inj heq).1 hminus
  · next heq => exact absurd (List.cons.inj heq).1 hplus
  · rfl

theorem splitSign_sign {sign digits : List Char} (hsign : sign ∈ [[], ['+'], ['-']])
    (hne : digits ≠ []) (hdigits : digits.all Char.isDigit = true) :
    splitSign (sign ++ digits) = (decide (sign = ['-']), digits) := by
  simp only [List.mem_cons, List.not_mem_nil, or_false] at hsign
  rcases hsign with rfl | rfl | rfl
  · cases digits with
    | nil => exact (hne rfl).elim
    | cons d ds => exact splitSign_digit (List.all_eq_true.mp hdigits d List.mem_cons_self)
  · rfl
  · rfl

theorem splitSign_cases (cs : List Char) :
    ∃ sign ∈ [[], ['+'], ['-']], cs = sign ++ (splitSign cs).2 ∧
      (splitSign cs).1 = decide (sign = ['-']) := by
  unfold splitSign
  split
  · exact ⟨['-'], by simp, rfl, rfl⟩
  · exact ⟨['+'], by simp, rfl, rfl⟩
  · exact ⟨[], by simp, rfl, rfl⟩

/-- Text that neither continues a number nor starts its fraction. -/
def EndsNumber (rest : List Char) : Prop := ∀ c ∈ rest.head?, c.isDigit = false ∧ c ≠ '.'

theorem numeral_of_ends {cs : List Char} (h : EndsNumber (cs.dropWhile Char.isDigit)) :
    numeral cs = ⟨cs.takeWhile Char.isDigit, [], cs.dropWhile Char.isDigit⟩ := by
  cases hrest : cs.dropWhile Char.isDigit with
  | nil => simp [numeral, hrest]
  | cons c rest =>
    rw [hrest] at h
    simp [numeral, hrest, (h c rfl).2]

theorem numeral_digits {ds rest : List Char} (hds : ds.all Char.isDigit = true)
    (hrest : EndsNumber rest) : numeral (ds ++ rest) = ⟨ds, [], rest⟩ := by
  have hdigits := List.all_eq_true.mp hds
  have htake : rest.takeWhile Char.isDigit = [] ∧ rest.dropWhile Char.isDigit = rest := by
    cases rest with
    | nil => exact ⟨rfl, rfl⟩
    | cons c rest =>
      have hc := (hrest c rfl).1
      simp [hc]
  have hdrop : (ds ++ rest).dropWhile Char.isDigit = rest := by
    rw [List.dropWhile_append_of_pos hdigits, htake.2]
  rw [numeral_of_ends (by rw [hdrop]; exact hrest), hdrop,
    List.takeWhile_append_of_pos hdigits, htake.1, List.append_nil]

/-- A numeral that starts with neither a digit nor a point is none. -/
theorem numeral_empty {cs : List Char} (h : EndsNumber cs) : (numeral cs).nonempty = false := by
  have hdigits : ([] : List Char).all Char.isDigit = true := rfl
  have hnil : numeral ([] ++ cs) = ⟨[], [], cs⟩ := numeral_digits hdigits h
  rw [List.nil_append] at hnil
  rw [hnil]
  rfl

theorem Numeral.scaled_digits (ds rest : List Char) :
    Numeral.scaled ⟨ds, [], rest⟩ false 0 = digitsValue ds := by
  have hone : pow10 (0 - (([] : List Char).length : Int)) = 1 := rfl
  simp only [Numeral.scaled, hone, List.append_nil, mul_one]
  rfl

theorem Numeral.scaled_add (n : Numeral) (neg : Bool) (e : Int) :
    n.scaled neg e = n.scaled neg 0 * pow10 e := by
  have hexp : e - (n.frac.length : Int) = (0 - (n.frac.length : Int)) + e := by omega
  simp only [Numeral.scaled]
  rw [hexp, pow10_add, mul_assoc]

end Decimal
end AgentHosting
