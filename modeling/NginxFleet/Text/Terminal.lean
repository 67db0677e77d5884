/-
Module: NginxFleet.Text.Terminal
Layer: Text
Purpose: Texts that are shown on a terminal. The controls with which a text could command the
  terminal are shown by their numbers: bell, backspace, form feed, escape and delete, and the
  controls from U+0080 to U+009F. All other characters, line ends among them, are left as they are.
Main exports: shown
-/

namespace NginxFleet.Text

/-- The form of one character on a terminal. -/
def shownChar (c : Char) : List Char :=
  if c.toNat = 0x07 then ['\\', 'x', '0', '7']
  else if c.toNat = 0x08 then ['\\', 'x', '0', '8']
  else if c.toNat = 0x0C then ['\\', 'x', '0', 'c']
  else if c.toNat = 0x1B then ['\\', 'x', '1', 'b']
  else if c.toNat = 0x7F then ['\\', 'x', '7', 'f']
  else if 0x80 ≤ c.toNat ∧ c.toNat ≤ 0x9F then
    ['\\', 'u', '{'] ++ Nat.toDigits 16 c.toNat ++ ['}']
  else [c]

/-- A text as it is shown on a terminal. -/
def shown (s : String) : String :=
  String.ofList (s.toList.flatMap shownChar)

end NginxFleet.Text
