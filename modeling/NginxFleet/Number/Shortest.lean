/-
Module: NginxFleet.Number.Shortest
Layer: Number
Purpose: The shortest decimal digits that identify a floating point number: the fewest digits whose
  value lies among the reals that round to the number, and of those the nearest. The text writes
  them positionally for decimal exponents from -5 to 15, always with a point, and with an exponent
  otherwise.
Main exports: Binary64.shortestDigits, Binary64.text
-/
import NginxFleet.Number.Binary64

namespace NginxFleet.Binary64

/-- The number of decimal digits before the point of a quotient, or minus the number of zeros that
    follow the point before its first digit. The bound limits the search for that digit. -/
def decimalPoint (numerator denominator : Nat) : Nat → Int
  | 0 => 0
  | bound + 1 =>
    let whole := numerator / denominator
    if 0 < whole then (toString whole).length
    else decimalPoint (numerator * 10) denominator bound - 1

/-- Whether `digits * 10 ^ scale` lies between two quotients with one denominator. The ends count
    only if `closed`. -/
def between (low high denominator : Nat) (closed : Bool) (digits : Nat) (scale : Int) : Bool :=
  let value := digits * tenTo scale.toNat * denominator
  let low := low * tenTo (-scale).toNat
  let high := high * tenTo (-scale).toNat
  if closed then low ≤ value && value ≤ high else low < value && value < high

/-- The candidate of a given decimal scale, if one rounds to the number: of the two multiples of
    `10 ^ scale` around the value the nearer one that does, of two equally near the even one. -/
def candidate (value low high denominator : Nat) (closed : Bool) (scale : Int) : Option Nat :=
  let numerator := value * tenTo (-scale).toNat
  let unit := denominator * tenTo scale.toNat
  let below := numerator / unit
  let rest := 2 * (numerator % unit)
  let fits := fun digits => between low high denominator closed digits scale
  let lowerNearer := rest < unit || (rest == unit && below % 2 == 0)
  if fits below && (lowerNearer || !fits (below + 1)) then some below
  else if fits (below + 1) then some (below + 1)
  else none

/-- The first candidate over growing numbers of digits. -/
def firstCandidate (value low high denominator : Nat) (closed : Bool) (point : Int) :
    List Nat → Option (Nat × Int)
  | [] => none
  | count :: more =>
    match candidate value low high denominator closed (point - count) with
    | some digits => some (digits, point - count)
    | none => firstCandidate value low high denominator closed point more

/-- The shortest decimal `digits * 10 ^ scale` that rounds to the number, its sign left out. The
    search starts at no digits: a value just below a power of ten may round to that power. -/
def shortestDigits (x : Binary64) : Nat × Int :=
  let quarter := x.exponent - 2
  let factor := twoTo quarter.toNat
  let denominator := twoTo (-quarter).toNat
  let gapBelow := if x.mantissa = twoTo 52 ∧ x.exponent ≠ -1074 then 1 else 2
  let value := 4 * x.mantissa * factor
  let low := (4 * x.mantissa - gapBelow) * factor
  let high := (4 * x.mantissa + 2) * factor
  let point := decimalPoint value denominator 400
  (firstCandidate value low high denominator (x.mantissa % 2 == 0) point
    (List.range 18)).getD (0, 0)

/-- The text of `digits * 10 ^ scale`; an exponent is written with its sign. -/
def decimalText (digits : Nat) (scale : Int) : String :=
  let ds := (toString digits).toList
  let point := (ds.length : Int) + scale
  if 0 ≤ scale ∧ point ≤ 16 then
    String.ofList (ds ++ List.replicate scale.toNat '0' ++ ['.', '0'])
  else if 0 < point ∧ point ≤ 16 then
    String.ofList (ds.take point.toNat ++ '.' :: ds.drop point.toNat)
  else if -5 < point ∧ point ≤ 0 then
    String.ofList ('0' :: '.' :: List.replicate (-point).toNat '0' ++ ds)
  else
    let mantissa := if ds.length = 1 then ds else ds.take 1 ++ '.' :: ds.drop 1
    let sign := if 0 < point then "e+" else "e"
    String.ofList mantissa ++ sign ++ toString (point - 1)

/-- The text of a number, which always holds a point or an exponent. -/
def text (x : Binary64) : String :=
  let body :=
    if x.mantissa = 0 then "0.0"
    else
      let (digits, scale) := x.shortestDigits
      decimalText digits scale
  if x.negative then "-" ++ body else body

end NginxFleet.Binary64
