/-
Module: NginxFleet.Text.FormEncoded
Layer: Text
Purpose: The form encoding of a query value. A space is written as a plus sign, letters, digits and
  four marks stand for themselves, and every other octet of the UTF-8 text is written as a percent
  sign and two upper-case hexadecimal digits. Reading undoes this and takes any other character for
  itself.
Main exports: formEncode, formDecode
-/
import NginxFleet.Text.Utf8

namespace NginxFleet.Text

/-- The characters that the form encoding keeps as they are. -/
def isFormPlain (octet : UInt8) : Bool :=
  let c := Char.ofNat octet.toNat
  c.isAlphanum || c == '*' || c == '-' || c == '.' || c == '_'

/-- The upper-case hexadecimal digit of a number below sixteen. -/
def upperHexDigit (n : Nat) : Char :=
  if n < 10 then Char.ofNat (48 + n) else Char.ofNat (55 + n)

/-- The form encoding of one octet. -/
def formEncodeOctet (octet : UInt8) : List Char :=
  if octet = 0x20 then ['+']
  else if isFormPlain octet then [Char.ofNat octet.toNat]
  else ['%', upperHexDigit (octet.toNat / 16), upperHexDigit (octet.toNat % 16)]

/-- The form encoding of a text. -/
def formEncode (s : String) : String :=
  String.ofList (s.toList.flatMap fun c => (String.utf8EncodeChar c).flatMap formEncodeOctet)

/-- The number that a hexadecimal digit of either case stands for. -/
def hexDigit? (c : Char) : Option Nat :=
  if '0' ≤ c ∧ c ≤ '9' then some (c.toNat - 48)
  else if 'A' ≤ c ∧ c ≤ 'F' then some (c.toNat - 55)
  else if 'a' ≤ c ∧ c ≤ 'f' then some (c.toNat - 87)
  else none

/-- The octets that a form-encoded text stands for. -/
def formDecodeOctets : List Char → List UInt8
  | [] => []
  | '%' :: a :: b :: rest =>
    match hexDigit? a, hexDigit? b with
    | some high, some low => UInt8.ofNat (high * 16 + low) :: formDecodeOctets rest
    | _, _ => 0x25 :: formDecodeOctets (a :: b :: rest)
  | c :: rest =>
    if c = '+' then 0x20 :: formDecodeOctets rest
    else String.utf8EncodeChar c ++ formDecodeOctets rest

/-- The text that a form-encoded text stands for, if its octets are UTF-8. -/
def formDecode (s : String) : Option String :=
  (decodeUtf8 (formDecodeOctets s.toList)).toOption

end NginxFleet.Text
