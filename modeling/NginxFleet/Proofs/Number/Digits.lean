/-
Module: NginxFleet.Proofs.Number.Digits
Layer: Proofs
Purpose: Decimal digits and their value. The digits of a number have it as their value and do not begin
  with a zero, unless they are this zero. A reader that keeps only as many digits as 64 bits hold
  leaves out some at the end, so what it keeps is never too much.
Main exports: digitsValue_eq_ofDigitChars, digitsValue_append, digitsValue_toDigits, digitsValue_lt,
  PlainDigits, plainDigits_toDigits, Json.appendDigits_le, Json.appendDigits_of_fits
-/
import Mathlib.Tactic.Linarith
import Mathlib.Tactic.Ring
import NginxFleet.Json.Token

namespace NginxFleet

theorem digitsValue_eq_ofDigitChars (digits : List Char) :
    digitsValue digits = Nat.ofDigitChars 10 digits 0 := by
  unfold digitsValue Nat.ofDigitChars
  congr 1
  funext value c
  rw [Nat.mul_comm]
  rfl

theorem digitsValue_append (front back : List Char) :
    digitsValue (front ++ back) = digitsValue front * 10 ^ back.length + digitsValue back := by
  rw [digitsValue_eq_ofDigitChars, digitsValue_eq_ofDigitChars, digitsValue_eq_ofDigitChars,
    Nat.ofDigitChars_append, Nat.ofDigitChars_eq_ofDigitChars_zero, Nat.mul_comm]

theorem digitsValue_cons (c : Char) (rest : List Char) :
    digitsValue (c :: rest) = digitValue c * 10 ^ rest.length + digitsValue rest := by
  rw [← List.singleton_append, digitsValue_append]
  simp [digitsValue]

theorem digitsValue_zeros (count : Nat) : digitsValue (List.replicate count '0') = 0 := by
  rw [digitsValue_eq_ofDigitChars, Nat.ofDigitChars_replicate_zero, Nat.mul_zero]

theorem digitsValue_toDigits (n : Nat) : digitsValue (Nat.toDigits 10 n) = n := by
  rw [digitsValue_eq_ofDigitChars, Nat.ofDigitChars_ten_toDigits]

theorem digitValue_le {c : Char} (digit : c.isDigit) : digitValue c ≤ 9 := by
  simp only [Char.isDigit, ge_iff_le, Bool.and_eq_true, decide_eq_true_eq,
    UInt32.le_iff_toNat_le] at digit
  change 48 ≤ c.toNat ∧ c.toNat ≤ 57 at digit
  unfold digitValue
  omega

/-- The value of so many digits is less than the power of ten of their number. -/
theorem digitsValue_lt {digits : List Char} (all : ∀ c ∈ digits, c.isDigit) :
    digitsValue digits < 10 ^ digits.length := by
  induction digits with
  | nil => decide
  | cons c rest ih =>
      have first := digitValue_le (all c List.mem_cons_self)
      have later := ih fun d found => all d (List.mem_cons_of_mem _ found)
      rw [digitsValue_cons, List.length_cons, pow_succ]
      nlinarith

/-- Digits as they are written: some, and no zero at their beginning unless it is the only one. -/
structure PlainDigits (digits : List Char) : Prop where
  all : ∀ c ∈ digits, c.isDigit
  ne_nil : digits ≠ []
  head : digits.length = 1 ∨ digits.head? ≠ some '0'

/-- The digits of a number are plain: without a zero at their beginning they would be as many. -/
theorem plainDigits_toDigits (n : Nat) : PlainDigits (Nat.toDigits 10 n) := by
  have all : ∀ c ∈ Nat.toDigits 10 n, c.isDigit := fun c found =>
    Nat.isDigit_of_mem_toDigits (by decide) (by decide) found
  refine ⟨all, Nat.toDigits_ne_nil, ?_⟩
  cases digits : Nat.toDigits 10 n with
  | nil => exact absurd digits Nat.toDigits_ne_nil
  | cons c rest =>
      rcases Nat.eq_zero_or_pos rest.length with single | more
      · exact .inl (by simp [single])
      · refine .inr ?_
        rintro leading
        cases leading
        have same := digitsValue_toDigits n
        rw [digits, digitsValue_cons] at same
        have small : n < 10 ^ rest.length := by
          rw [← same]
          simpa [digitsValue, digitValue] using
            digitsValue_lt fun d found => all d (digits ▸ List.mem_cons_of_mem _ found)
        have short := (Nat.length_toDigits_le_iff (by decide) more).mpr small
        rw [digits, List.length_cons] at short
        omega

namespace Json

/-!
### Digits that 64 bits hold
-/

/-- A value with further digits behind it. -/
def valueWith (value : Nat) (digits : List Char) : Nat :=
  value * 10 ^ digits.length + digitsValue digits

theorem valueWith_cons (value : Nat) (c : Char) (rest : List Char) :
    valueWith value (c :: rest) = valueWith (value * 10 + digitValue c) rest := by
  rw [valueWith, valueWith, digitsValue_cons, List.length_cons, pow_succ]
  ring

/-- What is kept fits 64 bits, and with zeros in place of what is left out it is not too much. -/
theorem appendDigits_le {value : Nat} (fits : value < twoTo 64) (digits : List Char) :
    (appendDigits value digits).1 < twoTo 64 ∧ (appendDigits value digits).2 ≤ digits.length ∧
      (appendDigits value digits).1 * 10 ^ (appendDigits value digits).2 ≤
        valueWith value digits := by
  induction digits generalizing value with
  | nil => exact ⟨fits, Nat.le_refl _, by simp [appendDigits, valueWith]⟩
  | cons c rest ih =>
      rw [valueWith_cons]
      unfold appendDigits
      dsimp only
      split
      · rename_i kept
        obtain ⟨small, few, less⟩ := ih kept
        exact ⟨small, few.trans (Nat.le_succ _), less⟩
      · refine ⟨fits, Nat.le_refl _, ?_⟩
        rw [← valueWith_cons, valueWith, List.length_cons]
        exact Nat.le_add_right _ _

/-- If the whole value fits, nothing is left out. -/
theorem appendDigits_of_fits {value : Nat} {digits : List Char}
    (fits : valueWith value digits < twoTo 64) :
    appendDigits value digits = (valueWith value digits, 0) := by
  induction digits generalizing value with
  | nil => simp [appendDigits, valueWith, digitsValue]
  | cons c rest ih =>
      rw [valueWith_cons] at fits ⊢
      have next : value * 10 + digitValue c < twoTo 64 := by
        refine Nat.lt_of_le_of_lt ?_ fits
        exact (Nat.le_mul_of_pos_right _ (Nat.pow_pos (by decide : 0 < 10))).trans (Nat.le_add_right _ _)
      unfold appendDigits
      dsimp only
      rw [if_pos next]
      exact ih fits

end Json

end NginxFleet
