/-
Module: NginxFleet.Proofs.Number.Rounding
Layer: Proofs
Purpose: How far rounding may go. A quotient that is rounded has a mantissa of 53 bits and an exponent
  in range, and grows by half a unit in its last place at most; it can be rounded if it is less than
  half a unit above the greatest number. So products and quotients of numbers stay in range as long
  as their exact values keep some distance from it.
Main exports: Binary64.magnitude, Binary64.Valid, Binary64.ofQuotient?_valid,
  Binary64.ofQuotient?_magnitude_le, Binary64.ofQuotient?_isSome
-/
import Mathlib.Algebra.Order.Field.Power
import Mathlib.Data.Nat.Cast.Order.Field
import Mathlib.Data.Rat.Cast.Order
import Mathlib.Tactic.FieldSimp
import Mathlib.Tactic.Linarith
import Mathlib.Tactic.NormNum
import Mathlib.Tactic.Positivity
import Mathlib.Tactic.Ring
import NginxFleet.Number.Binary64

namespace NginxFleet

theorem cast_twoTo (n : Nat) : (twoTo n : ℚ) = 2 ^ n := by
  simp [twoTo]

theorem cast_tenTo (n : Nat) : (tenTo n : ℚ) = 10 ^ n := by
  simp [tenTo]

theorem tenTo_mono {m n : Nat} (smaller : m ≤ n) : tenTo m ≤ tenTo n :=
  Nat.pow_le_pow_right (by decide) smaller

/-- A power with an exponent of any sign, as the quotient of one for each sign. -/
theorem pow_toNat_div {base : ℚ} (positive : base ≠ 0) (e : Int) :
    base ^ e.toNat / base ^ (-e).toNat = base ^ e := by
  rw [← zpow_natCast, ← zpow_natCast, ← zpow_sub₀ positive]
  congr 1
  omega

namespace Binary64

/-- The absolute value of a number. -/
def magnitude (x : Binary64) : ℚ := x.mantissa * 2 ^ x.exponent

/-- A number whose parts have the bits that they may have. -/
structure Valid (x : Binary64) : Prop where
  mantissa : x.mantissa < twoTo 53
  lowest : -1074 ≤ x.exponent
  highest : x.exponent ≤ 971

theorem valid_zero (negative : Bool) : (zero negative).Valid :=
  ⟨twoTo_pos 53, by simp [zero], by simp [zero]⟩

theorem magnitude_nonneg (x : Binary64) : 0 ≤ x.magnitude := by
  unfold magnitude
  positivity

theorem toQuotient_ratio (x : Binary64) :
    0 < x.toQuotient.2 ∧ (x.toQuotient.1 : ℚ) / x.toQuotient.2 = x.magnitude := by
  refine ⟨twoTo_pos _, ?_⟩
  simp only [toQuotient, magnitude, Nat.cast_mul, cast_twoTo]
  rw [mul_div_assoc, pow_toNat_div (by norm_num)]

/-!
### One quotient
-/

section Quotient

variable {numerator denominator : Nat}

theorem scaled_ratio (numerator : Nat) (positive : 0 < denominator) (e : Int) :
    0 < (scaled numerator denominator e).2 ∧
      ((scaled numerator denominator e).1 : ℚ) / (scaled numerator denominator e).2 =
        numerator / denominator * 2 ^ (-e) := by
  refine ⟨Nat.mul_pos positive (twoTo_pos _), ?_⟩
  have power := pow_toNat_div two_ne_zero (-e)
  rw [neg_neg] at power
  simp only [scaled, Nat.cast_mul, cast_twoTo]
  rw [mul_div_mul_comm, power]

theorem roundHalfEven_le (positive : 0 < denominator) :
    (roundHalfEven numerator denominator : ℚ) ≤ numerator / denominator + 1 / 2 := by
  have cast_positive : (0 : ℚ) < denominator := by exact_mod_cast positive
  have whole : ((numerator / denominator : Nat) : ℚ) ≤ numerator / denominator := Nat.cast_div_le
  have parts : (denominator : ℚ) * (numerator / denominator : Nat) +
      (numerator % denominator : Nat) = numerator := by
    exact_mod_cast Nat.div_add_mod numerator denominator
  unfold roundHalfEven
  dsimp only
  split
  · linarith
  · rename_i far
    have half : denominator ≤ 2 * (numerator % denominator) := by
      simp only [Bool.or_eq_true, decide_eq_true_eq, not_or, not_lt] at far
      exact far.1
    have cast_half : (denominator : ℚ) ≤ 2 * (numerator % denominator : Nat) := by
      exact_mod_cast half
    rw [Nat.cast_add, Nat.cast_one, ← sub_le_iff_le_add, le_div_iff₀ cast_positive]
    linarith

/-- The first guess of an exponent leaves a mantissa of 53 or 54 bits. -/
theorem estimate_bounds (nonzero : numerator ≠ 0) (positive : 0 < denominator) :
    (2 : ℚ) ^ 52 ≤
        numerator / denominator * 2 ^ (-((numerator.log2 : Int) - denominator.log2 - 53)) ∧
      numerator / denominator * 2 ^ (-((numerator.log2 : Int) - denominator.log2 - 53)) <
        (2 : ℚ) ^ 54 := by
  have cast_positive : (0 : ℚ) < denominator := by exact_mod_cast positive
  have above : (2 : ℚ) ^ numerator.log2 ≤ numerator := by
    exact_mod_cast Nat.log2_self_le nonzero
  have below : (numerator : ℚ) < 2 ^ (numerator.log2 + 1) := by
    exact_mod_cast Nat.lt_log2_self
  have above' : (2 : ℚ) ^ denominator.log2 ≤ denominator := by
    exact_mod_cast Nat.log2_self_le positive.ne'
  have below' : (denominator : ℚ) < 2 ^ (denominator.log2 + 1) := by
    exact_mod_cast Nat.lt_log2_self
  have power : (2 : ℚ) ^ (-((numerator.log2 : Int) - denominator.log2 - 53)) =
      2 ^ denominator.log2 / 2 ^ numerator.log2 * 2 ^ 53 := by
    rw [← zpow_natCast, ← zpow_natCast, ← zpow_sub₀ (by norm_num), ← zpow_natCast,
      ← zpow_add₀ (by norm_num)]
    congr 1
    push_cast
    ring
  have scale : (0 : ℚ) < 2 ^ numerator.log2 := by positivity
  have scale' : (0 : ℚ) < 2 ^ denominator.log2 := by positivity
  rw [power, div_mul_eq_mul_div, le_div_iff₀ cast_positive, div_lt_iff₀ cast_positive]
  rw [pow_succ] at below below'
  constructor
  · have lower : (2 : ℚ) ^ denominator.log2 ≤
        numerator * (2 ^ denominator.log2 / 2 ^ numerator.log2) := by
      rw [mul_div_assoc', le_div_iff₀ scale]
      nlinarith
    linarith
  · have upper : numerator * ((2 : ℚ) ^ denominator.log2 / 2 ^ numerator.log2) <
        2 * 2 ^ denominator.log2 := by
      rw [mul_div_assoc', div_lt_iff₀ scale]
      nlinarith
    linarith

/-- The exponent at which a quotient is rounded, before it is cut at the least one, leaves a mantissa of
    53 bits. -/
theorem exponentFor_uncut (nonzero : numerator ≠ 0) (positive : 0 < denominator) :
    ∃ e : Int, exponentFor numerator denominator = max e (-1074) ∧
      2 ^ 52 ≤ numerator / denominator * (2 : ℚ) ^ (-e) ∧
      numerator / denominator * (2 : ℚ) ^ (-e) < 2 ^ 53 := by
  obtain ⟨low, high⟩ := estimate_bounds nonzero positive
  have ratio := scaled_ratio numerator positive ((numerator.log2 : Int) - denominator.log2 - 53)
  set estimate : Int := (numerator.log2 : Int) - denominator.log2 - 53 with guess
  have cast_positive : (0 : ℚ) < (scaled numerator denominator estimate).2 := by
    exact_mod_cast ratio.1
  by_cases small : (scaled numerator denominator estimate).1 /
      (scaled numerator denominator estimate).2 < twoTo 53
  · refine ⟨estimate, ?_, low, ?_⟩
    · simp only [exponentFor, ← guess]
      rw [if_pos small]
    · rw [← ratio.2, div_lt_iff₀ cast_positive]
      have exact_small := (Nat.div_lt_iff_lt_mul ratio.1).mp small
      have cast_small : ((scaled numerator denominator estimate).1 : ℚ) <
          (twoTo 53 : ℚ) * (scaled numerator denominator estimate).2 := by
        exact_mod_cast exact_small
      rwa [cast_twoTo] at cast_small
  · have halved : numerator / denominator * (2 : ℚ) ^ (-(estimate + 1)) =
        numerator / denominator * 2 ^ (-estimate) / 2 := by
      rw [neg_add, zpow_add₀ (by norm_num)]
      ring
    have large : (2 : ℚ) ^ 53 ≤ numerator / denominator * 2 ^ (-estimate) := by
      rw [← ratio.2, le_div_iff₀ cast_positive]
      have exact_large := (Nat.le_div_iff_mul_le ratio.1).mp (Nat.not_lt.mp small)
      have cast_large : (twoTo 53 : ℚ) * (scaled numerator denominator estimate).2 ≤
          (scaled numerator denominator estimate).1 := by
        exact_mod_cast exact_large
      rwa [cast_twoTo] at cast_large
    refine ⟨estimate + 1, ?_, ?_, ?_⟩
    · simp only [exponentFor, ← guess]
      rw [if_neg small]
    · rw [halved]
      linarith
    · rw [halved]
      linarith

theorem unscaled_le {ratio bound : ℚ} {e : Int} (scaled : bound ≤ ratio * 2 ^ (-e)) :
    bound * 2 ^ e ≤ ratio := by
  rw [zpow_neg, ← div_eq_mul_inv] at scaled
  exact (le_div_iff₀ (by positivity)).mp scaled

/-- The exponent at which a quotient is rounded leaves a mantissa of 53 bits, or is the least one. -/
theorem exponentFor_bounds (nonzero : numerator ≠ 0) (positive : 0 < denominator) :
    -1074 ≤ exponentFor numerator denominator ∧
      numerator / denominator * (2 : ℚ) ^ (-exponentFor numerator denominator) < 2 ^ 53 ∧
      (exponentFor numerator denominator = -1074 ∨
        2 ^ 52 ≤ numerator / denominator * (2 : ℚ) ^ (-exponentFor numerator denominator)) := by
  obtain ⟨e, found, low, high⟩ := exponentFor_uncut nonzero positive
  have nonneg : (0 : ℚ) ≤ numerator / denominator := by positivity
  rw [found]
  refine ⟨le_max_right _ _, ?_, ?_⟩
  · have smaller : (2 : ℚ) ^ (-max e (-1074)) ≤ 2 ^ (-e) :=
      zpow_le_zpow_right₀ (by norm_num) (neg_le_neg (le_max_left _ _))
    exact (mul_le_mul_of_nonneg_left smaller nonneg).trans_lt high
  · rcases le_total e (-1074) with least | greater
    · exact .inl (max_eq_right least)
    · rw [max_eq_left greater]
      exact .inr low

/-- The mantissa and the exponent of a rounded quotient, before a mantissa of 54 bits is halved. -/
theorem ofQuotient?_cases {negative : Bool} {result : Option Binary64} (nonzero : numerator ≠ 0)
    (rounding : ofQuotient? negative numerator denominator = result) :
    ∃ e mantissa, e = exponentFor numerator denominator ∧
      mantissa = roundHalfEven (scaled numerator denominator e).1 (scaled numerator denominator e).2 ∧
      ((mantissa = twoTo 53 ∧
          result = if e + 1 ≤ 971 then some ⟨negative, twoTo 52, e + 1⟩ else none) ∨
        (mantissa ≠ twoTo 53 ∧ result = if e ≤ 971 then some ⟨negative, mantissa, e⟩ else none)) := by
  refine ⟨_, _, rfl, rfl, ?_⟩
  rw [ofQuotient?, if_neg nonzero] at rounding
  by_cases carries : roundHalfEven
      (scaled numerator denominator (exponentFor numerator denominator)).1
      (scaled numerator denominator (exponentFor numerator denominator)).2 = twoTo 53
  · refine .inl ⟨carries, ?_⟩
    simp only [carries, if_true] at rounding
    exact rounding.symm
  · refine .inr ⟨carries, ?_⟩
    simp only [carries, if_false] at rounding
    exact rounding.symm

/-- The mantissa of a rounded quotient is at most half above the exact one. -/
theorem rounded_le (numerator : Nat) (positive : 0 < denominator) (e : Int) :
    (roundHalfEven (scaled numerator denominator e).1 (scaled numerator denominator e).2 : ℚ) ≤
      numerator / denominator * 2 ^ (-e) + 1 / 2 := by
  obtain ⟨scaled_positive, ratio⟩ := scaled_ratio numerator positive e
  rw [← ratio]
  exact roundHalfEven_le scaled_positive

/-- A rounded mantissa is at most a natural bound of the exact one. -/
theorem rounded_le_of_lt (positive : 0 < denominator) {e : Int} {bound : Nat}
    (below : numerator / denominator * (2 : ℚ) ^ (-e) < bound) :
    roundHalfEven (scaled numerator denominator e).1 (scaled numerator denominator e).2 ≤ bound := by
  have close := rounded_le numerator positive e
  have cast_lt : (roundHalfEven (scaled numerator denominator e).1
      (scaled numerator denominator e).2 : ℚ) < (bound + 1 : Nat) := by
    push_cast
    linarith
  exact Nat.lt_succ_iff.mp (by exact_mod_cast cast_lt)

variable {negative : Bool} {x : Binary64}

theorem roundHalfEven_zero (numerator : Nat) : roundHalfEven numerator 0 ≤ 1 := by
  unfold roundHalfEven
  dsimp only
  split <;> simp

/-- What is rounded has the bits that it may have, also if there was nothing to divide by. -/
theorem ofQuotient?_valid (rounding : ofQuotient? negative numerator denominator = some x) :
    x.Valid := by
  have smaller : twoTo 52 < twoTo 53 := by decide +kernel
  by_cases nonzero : numerator = 0
  · simp only [ofQuotient?, nonzero, if_true, Option.some.injEq] at rounding
    rw [← rounding]
    exact valid_zero negative
  · have least : -1074 ≤ exponentFor numerator denominator := le_max_right _ _
    have bound : roundHalfEven (scaled numerator denominator (exponentFor numerator denominator)).1
        (scaled numerator denominator (exponentFor numerator denominator)).2 ≤ twoTo 53 := by
      rcases Nat.eq_zero_or_pos denominator with rfl | positive
      · simp only [scaled, Nat.zero_mul]
        exact (roundHalfEven_zero _).trans (twoTo_pos 53)
      · obtain ⟨-, below, -⟩ := exponentFor_bounds nonzero positive
        rw [← cast_twoTo] at below
        exact rounded_le_of_lt positive below
    obtain ⟨e, mantissa, rfl, rfl, ⟨carries, made⟩ | ⟨stays, made⟩⟩ :=
      ofQuotient?_cases nonzero rounding
    · split at made
      · cases made
        exact ⟨smaller, by dsimp only; omega, by assumption⟩
      · cases made
    · split at made
      · cases made
        exact ⟨lt_of_le_of_ne bound stays, least, by assumption⟩
      · cases made

/-- Halving a mantissa of 54 bits leaves the value as it is. -/
theorem ofQuotient?_magnitude (nonzero : numerator ≠ 0)
    (rounding : ofQuotient? negative numerator denominator = some x) :
    x.magnitude = roundHalfEven (scaled numerator denominator (exponentFor numerator denominator)).1
        (scaled numerator denominator (exponentFor numerator denominator)).2 *
      2 ^ exponentFor numerator denominator := by
  obtain ⟨_, _, rfl, rfl, ⟨carries, made⟩ | ⟨-, made⟩⟩ := ofQuotient?_cases nonzero rounding
  · split at made
    · cases made
      simp only [magnitude, carries, cast_twoTo]
      rw [zpow_add₀ (by norm_num)]
      ring
    · cases made
  · split at made
    · cases made
      rfl
    · cases made

/-- Half a unit in the last place is small beside the quotient, or the least there is. -/
theorem half_unit_le (nonzero : numerator ≠ 0) (positive : 0 < denominator) :
    (2 : ℚ) ^ exponentFor numerator denominator / 2 ≤
      numerator / denominator * 2 ^ (-53 : Int) + 2 ^ (-1075 : Int) := by
  obtain ⟨-, -, least | normal⟩ := exponentFor_bounds nonzero positive
  · have half : (2 : ℚ) ^ exponentFor numerator denominator / 2 = 2 ^ (-1075 : Int) := by
      rw [least, div_eq_iff (by norm_num), ← zpow_add_one₀ (by norm_num)]
      norm_num
    rw [half]
    exact le_add_of_nonneg_left (by positivity)
  · have large := unscaled_le normal
    have small : (2 : ℚ) ^ (-53 : Int) = 1 / 2 / 2 ^ 52 := by norm_num
    have tiny : (0 : ℚ) < 2 ^ (-1075 : Int) := by positivity
    rw [small]
    linarith

/-- A rounded quotient is at most half a unit of its last place above the exact one. -/
theorem ofQuotient?_magnitude_le (positive : 0 < denominator)
    (rounding : ofQuotient? negative numerator denominator = some x) :
    x.magnitude ≤ numerator / denominator * (1 + 2 ^ (-53 : Int)) + 2 ^ (-1075 : Int) := by
  by_cases nonzero : numerator = 0
  · simp only [ofQuotient?, nonzero, if_true, Option.some.injEq] at rounding
    rw [← rounding]
    simp [magnitude, zero, nonzero]
  · have close := rounded_le numerator positive (exponentFor numerator denominator)
    have half_unit := half_unit_le nonzero positive
    rw [ofQuotient?_magnitude nonzero rounding]
    set e := exponentFor numerator denominator
    set mantissa := roundHalfEven (scaled numerator denominator e).1
      (scaled numerator denominator e).2
    have inverse : (2 : ℚ) ^ (-e) * 2 ^ e = 1 := by
      rw [← zpow_add₀ (by norm_num), neg_add_cancel, zpow_zero]
    calc (mantissa : ℚ) * 2 ^ e
        ≤ (numerator / denominator * 2 ^ (-e) + 1 / 2) * 2 ^ e := by gcongr
      _ = numerator / denominator * (2 ^ (-e) * 2 ^ e) + 2 ^ e / 2 := by ring
      _ = numerator / denominator + 2 ^ e / 2 := by rw [inverse, mul_one]
      _ ≤ numerator / denominator * (1 + 2 ^ (-53 : Int)) + 2 ^ (-1075 : Int) := by linarith

/-- The unit in the last place of the greatest numbers. -/
def topUnit : ℚ := 2 ^ (971 : Int)

theorem topUnit_pos : 0 < topUnit := by
  unfold topUnit
  positivity

/-- Half a unit in its last place above the greatest number. -/
def overflow : ℚ := (2 ^ 53 - 1 / 2) * topUnit

/-- A quotient less than this has an exponent in range. -/
theorem exponentFor_le (nonzero : numerator ≠ 0) (positive : 0 < denominator)
    (below : numerator / denominator < overflow) : exponentFor numerator denominator ≤ 971 := by
  obtain ⟨-, -, last⟩ := exponentFor_bounds nonzero positive
  by_contra above
  rcases last with least | normal
  · omega
  · have power : 2 * topUnit ≤ 2 ^ exponentFor numerator denominator := by
      unfold topUnit
      rw [mul_comm, ← zpow_add_one₀ two_ne_zero]
      exact zpow_le_zpow_right₀ one_le_two (by omega)
    have large := unscaled_le normal
    have unit := topUnit_pos
    unfold overflow at below
    linarith

/-- A quotient can be rounded if it is less than half a unit above the greatest number. -/
theorem ofQuotient?_isSome (positive : 0 < denominator) (negative : Bool)
    (below : numerator / denominator < overflow) :
    (ofQuotient? negative numerator denominator).isSome := by
  by_cases nonzero : numerator = 0
  · simp [ofQuotient?, nonzero]
  · have inRange := exponentFor_le nonzero positive below
    obtain ⟨_, _, rfl, rfl, ⟨carries, made⟩ | ⟨-, made⟩⟩ :=
      ofQuotient?_cases nonzero (Eq.refl (ofQuotient? negative numerator denominator))
    · -- At the greatest exponent the mantissa is too small to be rounded to 54 bits.
      have lower : exponentFor numerator denominator ≠ 971 := by
        intro greatest
        have close := rounded_le numerator positive (exponentFor numerator denominator)
        have mantissa : numerator / denominator * (2 : ℚ) ^ (-exponentFor numerator denominator) <
            2 ^ 53 - 1 / 2 := by
          rw [greatest, zpow_neg, ← div_eq_mul_inv]
          exact (div_lt_iff₀ topUnit_pos).mpr below
        rw [carries, cast_twoTo] at close
        linarith
      rw [made, if_pos (by omega)]
      rfl
    · rw [made, if_pos inRange]
      rfl

end Quotient

end Binary64

end NginxFleet
