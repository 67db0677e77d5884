/-
Module: NginxFleet.Text.Quoted
Layer: Text
Purpose: A text in double quotes, as error reports show it. Quotes and backslashes are escaped, four
  controls have escapes of their own, and every other character that would not be seen on its own
  is written by its number.
Main exports: quoted
-/
import NginxFleet.Text.Printable

namespace NginxFleet.Text

/-- The form of one character inside double quotes. -/
def quotedChar (c : Char) : List Char :=
  if c.toNat = 0 then ['\\', '0']
  else if c = '\t' then ['\\', 't']
  else if c = '\r' then ['\\', 'r']
  else if c = '\n' then ['\\', 'n']
  else if c = '\\' then ['\\', '\\']
  else if c = '"' then ['\\', '"']
  else if isGraphemeExtender c || !isPrintable c then
    ['\\', 'u', '{'] ++ Nat.toDigits 16 c.toNat ++ ['}']
  else [c]

/-- A text in double quotes with every character in its quoted form. -/
def quoted (s : String) : String :=
  String.ofList ('"' :: s.toList.flatMap quotedChar ++ ['"'])

end NginxFleet.Text
