/-
Module: NginxFleet.Text.Utf8
Layer: Text
Purpose: Reading octets as UTF-8. The reader is a machine that takes one octet at a time and
  remembers, inside a character, how many octets are still owed and which octets the next one may
  be. A refusal says where the offending character starts and how many of its octets were
  well formed, or that the text ends inside a character.
Main exports: Utf8Fault, Utf8Fault.message, decodeUtf8
-/

namespace NginxFleet.Text

/-- Why octets are not UTF-8, and the index of the octet at which the bad character starts. -/
inductive Utf8Fault where
  /-- An octet that cannot follow the `length` octets from `start` on (itself, if it is first). -/
  | invalid (length start : Nat)
  /-- The octets end inside a character. -/
  | incomplete (start : Nat)
deriving DecidableEq, Repr, Inhabited

/-- The sentence that describes a fault. -/
def Utf8Fault.message : Utf8Fault → String
  | .invalid length start =>
    "invalid utf-8 sequence of " ++ toString length ++ " bytes from index " ++ toString start
  | .incomplete start => "incomplete utf-8 byte sequence from index " ++ toString start

/-- A character that is not complete: where it starts, the octets seen and owed, the least and the
    greatest octet that may come next, and the value of the bits read so far. -/
structure PartialChar where
  start : Nat
  seen : Nat
  owed : Nat
  low : Nat
  high : Nat
  bits : Nat
deriving DecidableEq, Repr, Inhabited

/-- What the first octet of a character announces: a complete character, a longer one, or nothing
    that UTF-8 allows. -/
inductive FirstOctet where
  | complete (c : Char)
  | opens (pending : PartialChar)
  | refused
deriving DecidableEq, Repr, Inhabited

/-- The reading of an octet that stands at the start of a character. -/
def firstOctet (start octet : Nat) : FirstOctet :=
  if octet < 0x80 then .complete (Char.ofNat octet)
  else if 0xC2 ≤ octet ∧ octet ≤ 0xDF then .opens ⟨start, 1, 1, 0x80, 0xBF, octet - 0xC0⟩
  else if octet = 0xE0 then .opens ⟨start, 1, 2, 0xA0, 0xBF, 0⟩
  else if octet = 0xED then .opens ⟨start, 1, 2, 0x80, 0x9F, 0xD⟩
  else if 0xE1 ≤ octet ∧ octet ≤ 0xEF then .opens ⟨start, 1, 2, 0x80, 0xBF, octet - 0xE0⟩
  else if octet = 0xF0 then .opens ⟨start, 1, 3, 0x90, 0xBF, 0⟩
  else if 0xF1 ≤ octet ∧ octet ≤ 0xF3 then .opens ⟨start, 1, 3, 0x80, 0xBF, octet - 0xF0⟩
  else if octet = 0xF4 then .opens ⟨start, 1, 3, 0x80, 0x8F, 4⟩
  else .refused

/-- Reads octets from index `at` on, inside the character `pending` if there is one. -/
def decodeFrom (index : Nat) (pending : Option PartialChar) :
    List UInt8 → Except Utf8Fault (List Char)
  | [] =>
    match pending with
    | none => .ok []
    | some p => .error (.incomplete p.start)
  | octet :: rest =>
    match pending with
    | none =>
      match firstOctet index octet.toNat with
      | .complete c => (decodeFrom (index + 1) none rest).map (c :: ·)
      | .opens p => decodeFrom (index + 1) (some p) rest
      | .refused => .error (.invalid 1 index)
    | some p =>
      if p.low ≤ octet.toNat ∧ octet.toNat ≤ p.high then
        let bits := p.bits * 64 + (octet.toNat - 0x80)
        if p.owed = 1 then
          (decodeFrom (index + 1) none rest).map (Char.ofNat bits :: ·)
        else
          decodeFrom (index + 1) (some ⟨p.start, p.seen + 1, p.owed - 1, 0x80, 0xBF, bits⟩) rest
      else .error (.invalid p.seen p.start)

/-- The text that octets spell, or the first fault in them. -/
def decodeUtf8 (octets : List UInt8) : Except Utf8Fault String :=
  (decodeFrom 0 none octets).map String.ofList

end NginxFleet.Text
