/-
Module: NginxFleet.Proofs.Number.Scaling
Layer: Proofs
Purpose: A decimal is read in steps that each round, and none of these leaves the range if the decimal
  keeps a few units of distance from the greatest number: a negative power of ten only makes the
  significand smaller, and a positive one is applied by one product of two rounded factors.
Main exports: Binary64.ofDecimal?_valid, Binary64.safeMagnitude, Binary64.ofDecimal?_isSome
-/
import NginxFleet.Proofs.Number.Rounding

namespace NginxFleet.Binary64

/-!
### The steps
-/

theorem two_pow_lt_overflow : (2 : ℚ) ^ 100 < overflow := by
  have large : (2 : ℚ) ^ 100 ≤ topUnit := by
    unfold topUnit
    rw [← zpow_natCast]
    exact zpow_le_zpow_right₀ one_le_two (by norm_num)
  unfold overflow
  linarith

/-- A power of ten that is not too large can be rounded, and is one at least. -/
theorem powerOfTen?_some {k : Nat} (small : k ≤ 308) :
    ∃ power, powerOfTen? k = some power ∧ 1 ≤ power.magnitude := by
  have checked : (List.range 309).all fun k => (powerOfTen? k).any fun power =>
      decide (power.toQuotient.2 ≤ power.toQuotient.1) := by
    decide +kernel
  have found := List.all_eq_true.mp checked k (List.mem_range.mpr (by omega))
  obtain ⟨power, rounded, large⟩ := (Option.any_eq_true ..).mp found
  obtain ⟨positive, ratio⟩ := power.toQuotient_ratio
  refine ⟨power, rounded, ?_⟩
  have cast_positive : (0 : ℚ) < power.toQuotient.2 := by exact_mod_cast positive
  rw [← ratio, le_div_iff₀ cast_positive, one_mul]
  exact_mod_cast of_decide_eq_true large

/-- A rounded quotient and one are together at most twice the exact quotient and one. -/
theorem magnitude_add_one_le {negative : Bool} {numerator denominator : Nat} {x : Binary64}
    (positive : 0 < denominator)
    (rounding : ofQuotient? negative numerator denominator = some x) :
    x.magnitude + 1 ≤ 2 * (numerator / denominator + 1) := by
  have close := ofQuotient?_magnitude_le positive rounding
  have nonneg : (0 : ℚ) ≤ numerator / denominator := by positivity
  have relative : (2 : ℚ) ^ (-53 : Int) ≤ 1 := zpow_le_one_of_nonpos₀ one_le_two (by norm_num)
  have absolute : (2 : ℚ) ^ (-1075 : Int) ≤ 1 := zpow_le_one_of_nonpos₀ one_le_two (by norm_num)
  have product := mul_le_mul_of_nonneg_left relative nonneg
  linarith

/-- A division by a number of one at least stays in range, with a bound that doubles. -/
theorem dividedBy?_some {x power : Binary64} {bits : Nat} (large : 1 ≤ power.magnitude)
    (bounded : x.magnitude + 1 ≤ 2 ^ bits) (few : bits ≤ 100) :
    ∃ y, x.dividedBy? power = some y ∧ y.magnitude + 1 ≤ 2 ^ (bits + 1) := by
  obtain ⟨positive, ratio⟩ := x.toQuotient_ratio
  obtain ⟨positiveToo, ratioToo⟩ := power.toQuotient_ratio
  have cast_positive : (0 : ℚ) < power.toQuotient.2 := by exact_mod_cast positiveToo
  have above : (0 : ℚ) < power.toQuotient.1 := by
    rw [← ratioToo, le_div_iff₀ cast_positive, one_mul] at large
    linarith
  have divides : 0 < x.toQuotient.2 * power.toQuotient.1 :=
    Nat.mul_pos positive (by exact_mod_cast above)
  have quotient : ((x.toQuotient.1 * power.toQuotient.2 : Nat) : ℚ) /
      (x.toQuotient.2 * power.toQuotient.1 : Nat) = x.magnitude / power.magnitude := by
    rw [← ratio, ← ratioToo]
    push_cast
    field_simp
  have smaller : x.magnitude / power.magnitude ≤ x.magnitude :=
    div_le_self x.magnitude_nonneg large
  have limit : (2 : ℚ) ^ bits ≤ 2 ^ 100 := pow_le_pow_right₀ one_le_two few
  have inRange := ofQuotient?_isSome divides x.negative (by
    rw [quotient]
    have top := two_pow_lt_overflow
    linarith)
  obtain ⟨y, rounding⟩ := Option.isSome_iff_exists.mp inRange
  refine ⟨y, rounding, ?_⟩
  have close := magnitude_add_one_le divides rounding
  rw [quotient] at close
  rw [pow_succ]
  linarith

/-- Taking off powers of ten from an exponent stays in range and ends above the least exponent of a
    power of ten, or at zero. -/
theorem scaleDown_some (steps : Nat) {bits : Nat} {x : Binary64} {e : Int}
    (bounded : x.magnitude + 1 ≤ 2 ^ bits) (few : bits + steps ≤ 100)
    (low : -308 * (steps + 1) ≤ e) (negative : e < 0) :
    ∃ y final, scaleDown steps x e = some (y, final) ∧ y.magnitude + 1 ≤ 2 ^ (bits + steps) ∧
      (y.mantissa = 0 ∨ -308 ≤ final ∧ final < 0) := by
  induction steps generalizing bits x e with
  | zero => exact ⟨x, e, rfl, bounded, .inr ⟨by omega, negative⟩⟩
  | succ steps ih =>
      by_cases done : -308 ≤ e ∨ x.mantissa = 0
      · refine ⟨x, e, by rw [scaleDown, if_pos done], ?_, ?_⟩
        · exact bounded.trans (pow_le_pow_right₀ one_le_two (by omega))
        · rcases done with high | zero
          · exact .inr ⟨high, negative⟩
          · exact .inl zero
      · rw [not_or] at done
        obtain ⟨power, rounded, large⟩ := powerOfTen?_some (Nat.le_refl 308)
        obtain ⟨smaller, divided, boundedToo⟩ := dividedBy?_some large bounded (by omega)
        obtain ⟨y, final, rest, last, ends⟩ := ih (e := e + 308) boundedToo (by omega)
          (by push_cast at low; omega) (by omega)
        refine ⟨y, final, ?_, ?_, ends⟩
        · rw [scaleDown, if_neg (by rw [not_or]; exact done)]
          simp [rounded, divided, rest]
        · rwa [show bits + (steps + 1) = bits + 1 + steps by omega]

theorem scaleDown_valid {steps : Nat} {x y : Binary64} {e final : Int} (valid : x.Valid)
    (scaling : scaleDown steps x e = some (y, final)) : y.Valid := by
  induction steps generalizing x e with
  | zero =>
      cases scaling
      exact valid
  | succ steps ih =>
      rw [scaleDown] at scaling
      split at scaling
      · cases scaling
        exact valid
      · simp only [Option.bind_eq_bind, Option.bind_eq_some_iff] at scaling
        obtain ⟨power, -, divided, made, rest⟩ := scaling
        exact ih (ofQuotient?_valid made) rest

/-!
### The whole reading
-/

theorem ofDecimal?_valid {negative : Bool} {significand : Nat} {e : Int} {x : Binary64}
    (reading : ofDecimal? negative significand e = some x) : x.Valid := by
  simp only [ofDecimal?, Option.bind_eq_bind, Option.bind_eq_some_iff] at reading
  obtain ⟨start, rounded, ⟨y, final⟩, scaling, last⟩ := reading
  have valid : y.Valid := scaleDown_valid (ofQuotient?_valid rounded) scaling
  dsimp only at last
  split at last
  · cases last
    exact valid
  · split at last
    · cases last
    · split at last
      · obtain ⟨power, -, made⟩ := Option.bind_eq_some_iff.mp last
        exact ofQuotient?_valid made
      · obtain ⟨power, -, made⟩ := Option.bind_eq_some_iff.mp last
        exact ofQuotient?_valid made

/-- The decimals up to here are read without leaving the range. -/
def safeMagnitude : ℚ := (2 ^ 53 - 7 / 2) * topUnit

theorem safeMagnitude_lt : safeMagnitude < tenTo 309 := by
  have unit : topUnit = twoTo 971 := by rw [cast_twoTo, topUnit, ← zpow_natCast]; rfl
  have product : ((twoTo 53 * twoTo 971 : Nat) : ℚ) < (tenTo 309 : Nat) := by
    exact_mod_cast (by decide +kernel : twoTo 53 * twoTo 971 < tenTo 309)
  rw [Nat.cast_mul, ← unit, cast_twoTo] at product
  have positive := topUnit_pos
  unfold safeMagnitude
  linarith

/-- Both roundings of the factors of a safe product leave it in range. -/
theorem rounded_product_lt {first second : Nat} {x y : Binary64} {negative sign : Bool}
    (roundedFirst : ofQuotient? negative first 1 = some x)
    (roundedSecond : ofQuotient? sign second 1 = some y) (nonzero : first ≠ 0)
    (nonzeroToo : second ≠ 0) (safe : (first : ℚ) * second ≤ safeMagnitude) :
    x.magnitude * y.magnitude < overflow := by
  have relative : ∀ {n : Nat} {z : Binary64} {sign : Bool}, ofQuotient? sign n 1 = some z → n ≠ 0 →
      z.magnitude ≤ n * (1 + 5 / 2 ^ 55) := by
    intro n z sign rounded positive
    have close := ofQuotient?_magnitude_le Nat.one_pos rounded
    have one_le : (1 : ℚ) ≤ n := by exact_mod_cast Nat.one_le_iff_ne_zero.mpr positive
    have tiny : (2 : ℚ) ^ (-1075 : Int) ≤ 2 ^ (-55 : Int) :=
      zpow_le_zpow_right₀ one_le_two (by norm_num)
    have unit : (2 : ℚ) ^ (-53 : Int) = 4 / 2 ^ 55 := by norm_num
    have smaller : (2 : ℚ) ^ (-55 : Int) = 1 / 2 ^ 55 := by norm_num
    rw [Nat.cast_one, div_one, unit] at close
    rw [smaller] at tiny
    linarith
  have unit := topUnit_pos
  calc x.magnitude * y.magnitude
      ≤ first * (1 + 5 / 2 ^ 55) * (second * (1 + 5 / 2 ^ 55)) := by
        apply mul_le_mul (relative roundedFirst nonzero) (relative roundedSecond nonzeroToo)
          y.magnitude_nonneg
        positivity
    _ = first * second * (1 + 5 / 2 ^ 55) ^ 2 := by ring
    _ ≤ safeMagnitude * (1 + 5 / 2 ^ 55) ^ 2 := by gcongr
    _ < overflow := by
        unfold safeMagnitude overflow
        rw [mul_right_comm]
        apply mul_lt_mul_of_pos_right _ unit
        norm_num

section Reading

variable {significand : Nat} {start : Binary64} {negative : Bool}

/-- A rounded significand with a negative power of ten can be read: each division makes it smaller. -/
theorem ofDecimal?_isSome_of_neg {e : Int}
    (rounded : ofQuotient? negative significand 1 = some start)
    (bounded : start.magnitude + 1 ≤ 2 ^ 66) (low : -1540 ≤ e) (below : e < 0) :
    (ofDecimal? negative significand e).isSome := by
  obtain ⟨y, final, scaled, last, zero | ⟨high, ends⟩⟩ :=
    scaleDown_some 4 bounded (by norm_num) (by omega) below
  · simp [ofDecimal?, rounded, scaled, zero]
  · obtain ⟨power, known, large⟩ := powerOfTen?_some (k := (-final).toNat) (by omega)
    obtain ⟨result, divided, -⟩ := dividedBy?_some large last (by norm_num)
    by_cases zero : y.mantissa = 0
    · simp [ofDecimal?, rounded, scaled, zero]
    · simp [ofDecimal?, rounded, scaled, zero, known, divided, show ¬ 308 < final by omega,
        show ¬ 0 ≤ final by omega]

/-- A power of ten whose product with a significand is safe is not too large. -/
theorem le_of_safe {k : Nat} (nonzero : significand ≠ 0)
    (safe : (significand : ℚ) * tenTo k ≤ safeMagnitude) : k ≤ 308 := by
  by_contra more
  have one_le : (1 : ℚ) ≤ significand := by exact_mod_cast Nat.one_le_iff_ne_zero.mpr nonzero
  have power : (tenTo 309 : ℚ) ≤ tenTo k := Nat.cast_le.mpr (tenTo_mono (by omega))
  have large := le_mul_of_one_le_left (Nat.cast_nonneg (α := ℚ) (tenTo k)) one_le
  exact absurd safeMagnitude_lt (not_lt.mpr (power.trans (large.trans safe)))

/-- A rounded significand with a power of ten can be read if their product is safe. -/
theorem ofDecimal?_isSome_of_safe {k : Nat}
    (rounded : ofQuotient? negative significand 1 = some start)
    (safe : (significand : ℚ) * tenTo k ≤ safeMagnitude) :
    (ofDecimal? negative significand k).isSome := by
  have scaled : scaleDown 4 start k = some (start, (k : Int)) := by
    rw [scaleDown, if_pos (.inl (by omega))]
  by_cases zero : start.mantissa = 0
  · simp [ofDecimal?, rounded, scaled, zero]
  · have nonzero : significand ≠ 0 := by
      rintro rfl
      cases rounded
      exact zero rfl
    have small := le_of_safe nonzero safe
    obtain ⟨factor, known, -⟩ := powerOfTen?_some small
    have product := rounded_product_lt rounded known nonzero (tenTo_pos k).ne' safe
    obtain ⟨positive, ratio⟩ := start.toQuotient_ratio
    obtain ⟨positiveToo, ratioToo⟩ := factor.toQuotient_ratio
    rw [← ratio, ← ratioToo, div_mul_div_comm, ← Nat.cast_mul, ← Nat.cast_mul] at product
    obtain ⟨result, multiplied⟩ := Option.isSome_iff_exists.mp
      (ofQuotient?_isSome (Nat.mul_pos positive positiveToo) start.negative product)
    have times : start.times? factor = some result := multiplied
    simp [ofDecimal?, rounded, scaled, zero, known, times, show ¬ 308 < k by omega]

end Reading

/-- A significand of 64 bits with a power of ten can be read if the decimal is safe and its exponent is
    not too small. -/
theorem ofDecimal?_isSome {significand : Nat} {e : Int} (negative : Bool)
    (fits : significand < twoTo 64) (low : -1540 ≤ e)
    (safe : (significand : ℚ) * 10 ^ e ≤ safeMagnitude) :
    (ofDecimal? negative significand e).isSome := by
  have cast_fits : ((significand : Nat) : ℚ) / (1 : Nat) < 2 ^ 64 := by
    rw [Nat.cast_one, div_one, ← cast_twoTo]
    exact_mod_cast fits
  have top := two_pow_lt_overflow
  obtain ⟨start, rounded⟩ := Option.isSome_iff_exists.mp
    (ofQuotient?_isSome Nat.one_pos negative (cast_fits.trans (by linarith)))
  have bounded : start.magnitude + 1 ≤ 2 ^ 66 := by
    have close := magnitude_add_one_le Nat.one_pos rounded
    linarith
  rcases lt_or_ge e 0 with below | above
  · exact ofDecimal?_isSome_of_neg rounded bounded low below
  · obtain ⟨k, rfl⟩ := Int.eq_ofNat_of_zero_le above
    rw [zpow_natCast, ← cast_tenTo] at safe
    exact ofDecimal?_isSome_of_safe rounded safe

end NginxFleet.Binary64
