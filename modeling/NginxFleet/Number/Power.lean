/-
Module: NginxFleet.Number.Power
Layer: Number
Purpose: Powers of two and of ten, the bounds of numbers of so many bits and the units of decimals.
Main exports: twoTo, tenTo
-/

namespace NginxFleet

/-- A power of two. -/
def twoTo (n : Nat) : Nat := Nat.pow 2 n

/-- A power of ten. -/
def tenTo (n : Nat) : Nat := Nat.pow 10 n

/-- A power of two is positive. -/
theorem twoTo_pos (n : Nat) : 0 < twoTo n :=
  Nat.pow_pos (by decide)

/-- A power of ten is positive. -/
theorem tenTo_pos (n : Nat) : 0 < tenTo n :=
  Nat.pow_pos (by decide)

end NginxFleet
