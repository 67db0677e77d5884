/-
Module: NginxFleet.Number.Binary64
Layer: Number
Purpose: Finite binary floating point numbers of 64 bits as exact values, rounding of a quotient to
  the nearest of them, and the reading of a decimal number. All arithmetic is on natural numbers.
  A decimal is read in steps that each round: its leading digits as far as 64 bits hold them, and
  then the scaling by powers of ten.
Main exports: Binary64, Binary64.ofQuotient?, Binary64.ofDecimal?
-/
import NginxFleet.Number.Power

namespace NginxFleet

/-- The number `mantissa * 2 ^ exponent`, with a sign that a zero has too. Every value built here
    has a mantissa below `2 ^ 53`, an exponent from -1074 to 971, and, unless the exponent is -1074,
    a mantissa from `2 ^ 52` on; so equal values have equal fields. -/
structure Binary64 where
  negative : Bool
  mantissa : Nat
  exponent : Int
deriving DecidableEq, Repr, Inhabited

namespace Binary64

/-- Zero with a sign. -/
def zero (negative : Bool) : Binary64 := ⟨negative, 0, -1074⟩

/-- `numerator / denominator` divided by `2 ^ exponent`, as a quotient of natural numbers. -/
def scaled (numerator denominator : Nat) (exponent : Int) : Nat × Nat :=
  (numerator * twoTo (-exponent).toNat, denominator * twoTo exponent.toNat)

/-- The exponent at which a quotient has a mantissa of 53 bits, or the least exponent. -/
def exponentFor (numerator denominator : Nat) : Int :=
  let estimate : Int := (numerator.log2 : Int) - denominator.log2 - 53
  let (n, d) := scaled numerator denominator estimate
  max (if n / d < twoTo 53 then estimate else estimate + 1) (-1074)

/-- A quotient of natural numbers rounded to the nearest natural number, ties to the even one. -/
def roundHalfEven (numerator denominator : Nat) : Nat :=
  let whole := numerator / denominator
  let rest := 2 * (numerator % denominator)
  if rest < denominator || (rest == denominator && whole % 2 == 0) then whole else whole + 1

/-- The nearest number to a quotient, ties to the even mantissa; nothing if it is too large. -/
def ofQuotient? (negative : Bool) (numerator denominator : Nat) : Option Binary64 :=
  if numerator = 0 then some (zero negative)
  else
    let exponent := exponentFor numerator denominator
    let (n, d) := scaled numerator denominator exponent
    let mantissa := roundHalfEven n d
    let (mantissa, exponent) :=
      if mantissa = twoTo 53 then (twoTo 52, exponent + 1) else (mantissa, exponent)
    if exponent ≤ 971 then some ⟨negative, mantissa, exponent⟩ else none

/-- The number times a power of two as a quotient of natural numbers, its sign left out. -/
def toQuotient (x : Binary64) : Nat × Nat :=
  (x.mantissa * twoTo x.exponent.toNat, twoTo (-x.exponent).toNat)

/-- The product of two numbers, rounded, with the sign of the first. -/
def times? (x y : Binary64) : Option Binary64 :=
  let (a, b) := x.toQuotient
  let (c, d) := y.toQuotient
  ofQuotient? x.negative (a * c) (b * d)

/-- The quotient by a number that is not zero, rounded, with the sign of the first. -/
def dividedBy? (x y : Binary64) : Option Binary64 :=
  let (a, b) := x.toQuotient
  let (c, d) := y.toQuotient
  ofQuotient? x.negative (a * d) (b * c)

/-- The nearest number to a power of ten. -/
def powerOfTen? (k : Nat) : Option Binary64 :=
  ofQuotient? false (tenTo k) 1

/-- Divides by `10 ^ 308` as often as the bound says or until the exponent is at least -308. -/
def scaleDown : Nat → Binary64 → Int → Option (Binary64 × Int)
  | 0, x, exponent => some (x, exponent)
  | steps + 1, x, exponent =>
    if -308 ≤ exponent ∨ x.mantissa = 0 then some (x, exponent)
    else do
      let large ← powerOfTen? 308
      scaleDown steps (← x.dividedBy? large) (exponent + 308)

/-- The reading of `significand * 10 ^ exponent`: the significand is rounded first, an exponent
    below -308 is taken off in steps of 308, and the remaining power of ten is applied last. Nothing
    if a step leaves the range. -/
def ofDecimal? (negative : Bool) (significand : Nat) (exponent : Int) : Option Binary64 := do
  let start ← ofQuotient? negative significand 1
  let (x, exponent) ← scaleDown 4 start exponent
  if x.mantissa = 0 then some x
  else if 308 < exponent then none
  else if 0 ≤ exponent then x.times? (← powerOfTen? exponent.toNat)
  else x.dividedBy? (← powerOfTen? (-exponent).toNat)

end Binary64

end NginxFleet
