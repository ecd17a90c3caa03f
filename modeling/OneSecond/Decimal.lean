import Mathlib

/-!
# Fixed-point decimals as text

A number of whole units and a fraction written with a fixed number of digits,
as in "12.05", and reading such a text back.  What is written is read back, so
the text determines both numbers.
-/

namespace Decimal

/-- The decimal digits of a number, filled up with zeros in front. -/
def padded (width number : ℕ) : List Char :=
  List.replicate (width - (Nat.toDigits 10 number).length) '0' ++ Nat.toDigits 10 number

/-- `whole` units, a dot, and `fraction` in `width` digits. -/
def fixedPoint (width whole fraction : ℕ) : String :=
  toString whole ++ "." ++ String.ofList (padded width fraction)

/-- The number written by a row of digits. -/
def readDigits (digits : List Char) : Option ℕ :=
  if digits ≠ [] ∧ ∀ digit ∈ digits, digit.isDigit = true then
    some (Nat.ofDigitChars 10 digits 0)
  else none

/-- The whole part and the fraction of a text with `width` digits after the dot. -/
def readFixedPoint (width : ℕ) (text : String) : Option (ℕ × ℕ) :=
  match text.toList.dropWhile Char.isDigit with
  | '.' :: fraction =>
      if fraction.length = width then
        (readDigits (text.toList.takeWhile Char.isDigit)).bind fun whole =>
          (readDigits fraction).map fun fraction => (whole, fraction)
      else none
  | _ => none

theorem isDigit_of_mem_toDigits {number : ℕ} {digit : Char}
    (occurs : digit ∈ Nat.toDigits 10 number) : digit.isDigit = true :=
  Nat.isDigit_of_mem_toDigits (by decide) (by decide) occurs

theorem isDigit_of_mem_padded {width number : ℕ} {digit : Char}
    (occurs : digit ∈ padded width number) : digit.isDigit = true := by
  rcases List.mem_append.mp occurs with zero | significant
  · rw [(List.mem_replicate.mp zero).2]
    rfl
  · exact isDigit_of_mem_toDigits significant

theorem length_padded {width number : ℕ} (positive : 0 < width) (small : number < 10 ^ width) :
    (padded width number).length = width := by
  have fits : (Nat.toDigits 10 number).length ≤ width :=
    (Nat.length_toDigits_le_iff (by decide) positive).mpr small
  simp only [padded, List.length_append, List.length_replicate]
  omega

/-- A number one digit short starts with a zero. -/
theorem padded_succ {width number : ℕ} (positive : 0 < width) (small : number < 10 ^ width) :
    padded (width + 1) number = '0' :: padded width number := by
  have fits : (Nat.toDigits 10 number).length ≤ width :=
    (Nat.length_toDigits_le_iff (by decide) positive).mpr small
  have oneMore : width + 1 - (Nat.toDigits 10 number).length =
      width - (Nat.toDigits 10 number).length + 1 := by
    omega
  rw [padded, oneMore, List.replicate_succ, padded, List.cons_append]

/-- A number which needs the whole width is not filled up. -/
theorem padded_of_le {width number : ℕ} (positive : 0 < width) (large : 10 ^ width ≤ number) :
    padded (width + 1) number = Nat.toDigits 10 number := by
  have short : ¬(Nat.toDigits 10 number).length ≤ width := by
    rw [Nat.length_toDigits_le_iff (by decide) positive]
    omega
  have noZeros : width + 1 - (Nat.toDigits 10 number).length = 0 := by omega
  rw [padded, noZeros, List.replicate_zero, List.nil_append]

theorem padded_one (number : ℕ) : padded 1 number = Nat.toDigits 10 number := by
  have atLeast : 0 < (Nat.toDigits 10 number).length := Nat.length_toDigits_pos
  have noZeros : 1 - (Nat.toDigits 10 number).length = 0 := by omega
  rw [padded, noZeros, List.replicate_zero, List.nil_append]

theorem toList_fixedPoint (width whole fraction : ℕ) :
    (fixedPoint width whole fraction).toList =
      Nat.toDigits 10 whole ++ '.' :: padded width fraction := by
  simp [fixedPoint]

@[simp]
theorem readDigits_toDigits (number : ℕ) : readDigits (Nat.toDigits 10 number) = some number := by
  have digits : Nat.toDigits 10 number ≠ [] ∧
      ∀ digit ∈ Nat.toDigits 10 number, digit.isDigit = true :=
    ⟨Nat.toDigits_ne_nil, fun _ => isDigit_of_mem_toDigits⟩
  rw [readDigits, if_pos digits, Nat.ofDigitChars_ten_toDigits]

/-- Zeros in front do not change the number. -/
@[simp]
theorem readDigits_padded (width number : ℕ) : readDigits (padded width number) = some number := by
  have digits : padded width number ≠ [] ∧
      ∀ digit ∈ padded width number, digit.isDigit = true := by
    refine ⟨?_, fun _ => isDigit_of_mem_padded⟩
    simp [padded, Nat.toDigits_ne_nil]
  rw [readDigits, if_pos digits, padded, Nat.ofDigitChars_append,
    Nat.ofDigitChars_replicate_zero, Nat.mul_zero, Nat.ofDigitChars_ten_toDigits]

/-- What is written is read back. -/
theorem readFixedPoint_fixedPoint {width whole fraction : ℕ} (positive : 0 < width)
    (small : fraction < 10 ^ width) :
    readFixedPoint width (fixedPoint width whole fraction) = some (whole, fraction) := by
  have digits : ∀ digit ∈ Nat.toDigits 10 whole, digit.isDigit = true :=
    fun _ => isDigit_of_mem_toDigits
  have wholePart : (Nat.toDigits 10 whole ++ '.' :: padded width fraction).takeWhile Char.isDigit =
      Nat.toDigits 10 whole := by
    rw [List.takeWhile_append_of_pos digits]
    simp
  have rest : (Nat.toDigits 10 whole ++ '.' :: padded width fraction).dropWhile Char.isDigit =
      '.' :: padded width fraction := by
    rw [List.dropWhile_append_of_pos digits]
    simp
  simp only [readFixedPoint, toList_fixedPoint, rest, wholePart, length_padded positive small,
    if_true, readDigits_toDigits, readDigits_padded, Option.bind_some, Option.map_some]

end Decimal
