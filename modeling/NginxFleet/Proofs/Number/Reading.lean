/-
Module: NginxFleet.Proofs.Number.Reading
Layer: Proofs
Purpose: Every number can be read in its text, as itself or as a neighbour. The digits that are written
  stand for a decimal that rounds to the number, so it is not far above it, and a decimal that is a
  few units below the greatest number is read without leaving the range; the three greatest numbers
  of each sign are read by computing.
Main exports: Binary64.shortestDigits_bounds, Binary64.ofNumber?_text
-/
import NginxFleet.Json.Received
import NginxFleet.Proofs.Number.Spelling

namespace NginxFleet.Binary64

open Json

/-!
### The digits that are written
-/

theorem neg_le_decimalPoint (numerator denominator bound : Nat) :
    -(bound : Int) ≤ decimalPoint numerator denominator bound := by
  induction bound generalizing numerator with
  | zero => simp [decimalPoint]
  | succ bound ih =>
      unfold decimalPoint
      dsimp only
      split
      · omega
      · have later := ih (numerator * 10)
        push_cast
        omega

/-- The number of digits before the point of a quotient of one at least. -/
theorem decimalPoint_of_bounds {numerator denominator bound count : Nat}
    (low : tenTo count ≤ numerator / denominator) (high : numerator / denominator < tenTo (count + 1)) :
    decimalPoint numerator denominator (bound + 1) = count + 1 := by
  have positive : 0 < numerator / denominator := (tenTo_pos count).trans_le low
  have most : (toString (numerator / denominator)).length ≤ count + 1 :=
    (Nat.length_repr_le_iff (Nat.succ_pos count)).mpr high
  have least : ¬ (toString (numerator / denominator)).length ≤ count := by
    rcases Nat.eq_zero_or_pos count with rfl | some_
    · have more : 0 < (toString (numerator / denominator)).length := Nat.length_repr_pos
      omega
    · intro short
      exact absurd ((Nat.length_repr_le_iff some_).mp short) (Nat.not_lt.mpr low)
  unfold decimalPoint
  dsimp only
  rw [if_pos positive]
  omega

section Candidates

variable {value low high denominator digits : Nat} {closed : Bool} {scale point : Int}

/-- A candidate lies among the reals that round to the number. -/
theorem between_of_candidate
    (found : candidate value low high denominator closed scale = some digits) :
    between low high denominator closed digits scale := by
  unfold candidate at found
  simp only [Bool.and_eq_true] at found
  split at found
  · rename_i fits
    cases found
    exact fits.1
  · split at found
    · rename_i fits
      cases found
      exact fits
    · cases found

theorem of_firstCandidate {counts : List Nat}
    (found : firstCandidate value low high denominator closed point counts = some (digits, scale)) :
    ∃ count ∈ counts, scale = point - count ∧ between low high denominator closed digits scale := by
  induction counts with
  | nil => cases found
  | cons count more ih =>
      unfold firstCandidate at found
      split at found
      · rename_i candidate
        cases found
        exact ⟨count, List.mem_cons_self, rfl, between_of_candidate candidate⟩
      · obtain ⟨later, among, rest⟩ := ih found
        exact ⟨later, List.mem_cons_of_mem _ among, rest⟩

theorem between_bounds (inside : between low high denominator closed digits scale) :
    low * tenTo (-scale).toNat ≤ digits * tenTo scale.toNat * denominator ∧
      digits * tenTo scale.toNat * denominator ≤ high * tenTo (-scale).toNat := by
  unfold between at inside
  dsimp only at inside
  split at inside
  · simpa using inside
  · have strictly : low * tenTo (-scale).toNat < digits * tenTo scale.toNat * denominator ∧
        digits * tenTo scale.toNat * denominator < high * tenTo (-scale).toNat := by
      simpa using inside
    exact ⟨strictly.1.le, strictly.2.le⟩

/-- Digits between two quotients are not more than the upper one, and there are some if the lower one
    is positive. -/
theorem between_le (inside : between low high denominator closed digits scale)
    (positive : 0 < denominator) (above : 0 < low) :
    digits ≠ 0 ∧ (digits : ℚ) * 10 ^ scale ≤ high / denominator := by
  obtain ⟨lower, upper⟩ := between_bounds inside
  constructor
  · rintro rfl
    have some_ := Nat.mul_pos above (tenTo_pos (-scale).toNat)
    omega
  · have cast_positive : (0 : ℚ) < denominator := by exact_mod_cast positive
    have power : (0 : ℚ) < 10 ^ (-scale).toNat := by positivity
    have cast_upper : (digits : ℚ) * 10 ^ scale.toNat * denominator ≤ high * 10 ^ (-scale).toNat := by
      rw [← cast_tenTo, ← cast_tenTo]
      exact_mod_cast upper
    rw [← pow_toNat_div (by norm_num : (10 : ℚ) ≠ 0), ← mul_div_assoc,
      div_le_div_iff₀ power cast_positive]
    exact cast_upper

end Candidates

/-- The digits that are written for a number are at most half a unit of its last place above it. Their
    exponent is not too small, and it is zero if there are none. -/
theorem shortestDigits_bounds {x : Binary64} (nonzero : x.mantissa ≠ 0) :
    (x.shortestDigits.1 = 0 → x.shortestDigits.2 = 0) ∧ -420 ≤ x.shortestDigits.2 ∧
      (x.shortestDigits.1 : ℚ) * 10 ^ x.shortestDigits.2 ≤
        (x.mantissa + 1 / 2) * 2 ^ x.exponent := by
  have nonneg : (0 : ℚ) ≤ (x.mantissa + 1 / 2) * 2 ^ x.exponent := by positivity
  unfold shortestDigits
  dsimp only
  set quarter := x.exponent - 2 with scale_eq
  set factor := twoTo quarter.toNat with factor_eq
  set gap := if x.mantissa = twoTo 52 ∧ x.exponent ≠ -1074 then 1 else 2 with gap_eq
  cases found : firstCandidate (4 * x.mantissa * factor) ((4 * x.mantissa - gap) * factor)
      ((4 * x.mantissa + 2) * factor) (twoTo (-quarter).toNat) (x.mantissa % 2 == 0)
      (decimalPoint (4 * x.mantissa * factor) (twoTo (-quarter).toNat) 400) (List.range 18) with
  | none => simpa using nonneg
  | some result =>
      obtain ⟨digits, scale⟩ := result
      obtain ⟨count, among, same, inside⟩ := of_firstCandidate found
      have few : count < 18 := List.mem_range.mp among
      have first := neg_le_decimalPoint (4 * x.mantissa * factor) (twoTo (-quarter).toNat) 400
      have low : 0 < (4 * x.mantissa - gap) * factor := by
        have small : gap ≤ 2 := by
          rw [gap_eq]
          split <;> omega
        exact Nat.mul_pos (by omega) (twoTo_pos _)
      obtain ⟨some_, upper⟩ := between_le inside (twoTo_pos _) low
      have limit : (((4 * x.mantissa + 2) * factor : Nat) : ℚ) / (twoTo (-quarter).toNat : Nat) =
          (x.mantissa + 1 / 2) * 2 ^ x.exponent := by
        have power : (2 : ℚ) ^ x.exponent = 2 ^ quarter * 4 := by
          rw [scale_eq, zpow_sub₀ two_ne_zero]
          norm_num
        rw [Nat.cast_mul, factor_eq, cast_twoTo, cast_twoTo, mul_div_assoc,
          pow_toNat_div two_ne_zero, power]
        push_cast
        ring
      rw [limit] at upper
      exact ⟨fun none_ => absurd none_ some_, by simp only [Option.getD_some]; omega, upper⟩

/-!
### The text
-/

theorem toList_text_zero {x : Binary64} (zero : x.mantissa = 0) :
    x.text.toList = withSign x.negative (decimalText 0 0).toList := by
  rw [text, if_pos zero]
  cases x.negative <;> rfl

theorem toList_text_nonzero {x : Binary64} (nonzero : x.mantissa ≠ 0) :
    x.text.toList =
      withSign x.negative (decimalText x.shortestDigits.1 x.shortestDigits.2).toList := by
  rw [text, if_neg nonzero]
  cases x.negative <;> simp [withSign]

/-- The characters of a number are its sign and a decimal that is not far above it. -/
theorem toList_text (x : Binary64) :
    ∃ digits scale, x.text.toList = withSign x.negative (decimalText digits scale).toList ∧
      (digits = 0 → scale = 0) ∧ -420 ≤ scale ∧
      (digits : ℚ) * 10 ^ scale ≤ (x.mantissa + 1 / 2) * 2 ^ x.exponent := by
  by_cases zero : x.mantissa = 0
  · refine ⟨0, 0, toList_text_zero zero, fun _ => rfl, by norm_num, ?_⟩
    simp only [Nat.cast_zero, zero_mul]
    positivity
  · obtain ⟨sound, low, upper⟩ := shortestDigits_bounds zero
    exact ⟨_, _, toList_text_nonzero zero, sound, low, upper⟩

/-!
### The greatest numbers

Their decimals are too close to the end of the range for an estimate.
-/

/-- The digits of the greatest numbers. -/
theorem shortestDigits_greatest (negative : Bool) : ∀ below ∈ [1, 2, 3],
    shortestDigits ⟨negative, twoTo 53 - below, 971⟩ = (17976931348623159 - 2 * below, 292) := by
  intro below among
  have bounds : ∀ below ∈ [1, 2, 3], tenTo 308 ≤ 4 * (twoTo 53 - below) * twoTo 969 / twoTo 0 ∧
      4 * (twoTo 53 - below) * twoTo 969 / twoTo 0 < tenTo 309 := by
    decide +kernel
  obtain ⟨low, high⟩ := bounds below among
  have point : decimalPoint (4 * (twoTo 53 - below) * twoTo 969) (twoTo 0) 400 = 309 :=
    decimalPoint_of_bounds low high
  have candidates : ∀ below ∈ [1, 2, 3],
      (firstCandidate (4 * (twoTo 53 - below) * twoTo 969)
        ((4 * (twoTo 53 - below) - 2) * twoTo 969) ((4 * (twoTo 53 - below) + 2) * twoTo 969)
        (twoTo 0) ((twoTo 53 - below) % 2 == 0) 309 (List.range 18)) =
          some (17976931348623159 - 2 * below, 292) := by
    decide +kernel
  have normal : ∀ below ∈ [1, 2, 3], twoTo 53 - below ≠ twoTo 52 := by
    decide +kernel
  show (firstCandidate (4 * (twoTo 53 - below) * twoTo 969)
      ((4 * (twoTo 53 - below) - (if twoTo 53 - below = twoTo 52 ∧ (971 : Int) ≠ -1074 then 1 else 2)) *
        twoTo 969) ((4 * (twoTo 53 - below) + 2) * twoTo 969) (twoTo 0)
      ((twoTo 53 - below) % 2 == 0)
      (decimalPoint (4 * (twoTo 53 - below) * twoTo 969) (twoTo 0) 400) (List.range 18)).getD (0, 0) = _
  rw [point, if_neg (fun both => normal below among both.1), candidates below among]
  rfl

/-- Whether characters are read as a floating point number. -/
def isFloatText (chars : List Char) : Bool :=
  (ofNumber? chars).any fun
    | .float _ => true
    | _ => false

theorem isFloatText_greatest {x : Binary64} (exponent : x.exponent = 971)
    (low : twoTo 53 - 3 ≤ x.mantissa) (high : x.mantissa < twoTo 53) :
    isFloatText x.text.toList := by
  have checked : ∀ negative, ∀ below ∈ [1, 2, 3],
      isFloatText (withSign negative (decimalText (17976931348623159 - 2 * below) 292).toList) := by
    decide +kernel
  have large : 3 < twoTo 53 := by decide +kernel
  have among : twoTo 53 - x.mantissa ∈ [1, 2, 3] := by
    simp only [List.mem_cons, List.not_mem_nil, or_false]
    omega
  have same : x = ⟨x.negative, twoTo 53 - (twoTo 53 - x.mantissa), 971⟩ := by
    rw [Nat.sub_sub_self high.le, ← exponent]
  have digits := shortestDigits_greatest x.negative _ among
  rw [← same] at digits
  rw [toList_text_nonzero (by omega), digits]
  exact checked x.negative _ among

/-!
### All numbers
-/

/-- Half a unit above a number that is not among the greatest is safe. -/
theorem le_safeMagnitude {x : Binary64} (valid : x.Valid)
    (lower : ¬(x.exponent = 971 ∧ twoTo 53 - 3 ≤ x.mantissa)) :
    (x.mantissa + 1 / 2) * 2 ^ x.exponent ≤ safeMagnitude := by
  have unit := topUnit_pos
  have highest := valid.highest
  have mantissa : (x.mantissa : ℚ) + 1 ≤ 2 ^ 53 := by
    rw [← cast_twoTo]
    exact_mod_cast valid.mantissa
  by_cases top : x.exponent = 971
  · have small : x.mantissa + 4 ≤ twoTo 53 := by
      have large : 4 ≤ twoTo 53 := by decide +kernel
      omega
    have cast_small : (x.mantissa : ℚ) + 4 ≤ 2 ^ 53 := by
      rw [← cast_twoTo]
      exact_mod_cast small
    rw [top]
    exact mul_le_mul_of_nonneg_right (by linarith) unit.le
  · have power : (2 : ℚ) ^ x.exponent ≤ topUnit / 2 := by
      have next : topUnit = 2 ^ (970 : Int) * 2 := by
        rw [topUnit, ← zpow_add_one₀ two_ne_zero]
        rfl
      rw [next, mul_div_cancel_right₀ _ two_ne_zero]
      exact zpow_le_zpow_right₀ one_le_two (by omega)
    calc (x.mantissa + 1 / 2) * (2 : ℚ) ^ x.exponent
        ≤ 2 ^ 53 * (topUnit / 2) := by
          apply mul_le_mul (by linarith) power (by positivity) (by norm_num)
      _ ≤ safeMagnitude := by
          unfold safeMagnitude
          linarith

/-- A number can be read in its text. -/
theorem ofNumber?_text {x : Binary64} (valid : x.Valid) :
    ∃ y, ofNumber? x.text.toList = some (.float y) := by
  by_cases greatest : x.exponent = 971 ∧ twoTo 53 - 3 ≤ x.mantissa
  · obtain ⟨document, read, float⟩ := (Option.any_eq_true ..).mp
      (isFloatText_greatest greatest.1 greatest.2 valid.mantissa)
    cases document with
    | float y => exact ⟨y, read⟩
    | _ => cases float
  · obtain ⟨digits, scale, shape, sound, low, upper⟩ := x.toList_text
    obtain ⟨whole, fraction, tail, exponent, spells⟩ := decimalText_spells sound
    have safe := upper.trans (le_safeMagnitude valid greatest)
    obtain ⟨y, read⟩ := readDecimal_float x.negative spells.spelled.plain.all spells.short
      (le_trans (by omega) spells.low) (spells.value.trans_le safe)
    exact ⟨y, by rw [shape, spells.spelled.ofNumber?, read]⟩

end NginxFleet.Binary64
