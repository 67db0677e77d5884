/-
Module: NginxFleet.Number.Unsigned
Layer: Number
Purpose: Reading a whole number without a sign from its decimal digits, within a number of bits. One
  plus sign may stand in front, and any number of zeros. The digits in front of the first other
  character decide whether the number is too large, before that character is a fault of its own.
Main exports: UnsignedFault, readUnsigned, digitsValue
-/
import NginxFleet.Number.Power

namespace NginxFleet

/-- Why characters are no number. -/
inductive UnsignedFault where
  | empty
  | invalidDigit
  | tooLarge
deriving DecidableEq, Repr, Inhabited

/-- The words for a fault. -/
def UnsignedFault.message : UnsignedFault → String
  | .empty => "cannot parse integer from empty string"
  | .invalidDigit => "invalid digit found in string"
  | .tooLarge => "number too large to fit in target type"

/-- The value of a digit. -/
def digitValue (c : Char) : Nat := c.toNat - 48

/-- The value of decimal digits. -/
def digitsValue (digits : List Char) : Nat :=
  digits.foldl (fun value c => value * 10 + digitValue c) 0

/-- The characters without one plus sign in front. -/
def withoutPlus : List Char → List Char
  | '+' :: rest => rest
  | chars => chars

/-- The number below a power of two that characters spell. -/
def readUnsigned (bits : Nat) (chars : List Char) : Except UnsignedFault Nat :=
  if chars = [] then .error .empty
  else
    let body := withoutPlus chars
    let digits := body.takeWhile Char.isDigit
    if twoTo bits ≤ digitsValue digits then .error .tooLarge
    else if digits = [] ∨ digits.length < body.length then .error .invalidDigit
    else .ok (digitsValue digits)

/-- A number that is read fits the bits. -/
theorem readUnsigned_lt {bits n : Nat} {chars : List Char} (h : readUnsigned bits chars = .ok n) :
    n < twoTo bits := by
  unfold readUnsigned at h
  split at h
  · cases h
  · dsimp only at h
    split at h
    · cases h
    · split at h
      · cases h
      · rename_i hsmall _
        cases h
        exact Nat.lt_of_not_le hsmall

end NginxFleet
