/-
Module: NginxFleet.Json.Token
Layer: Json
Purpose: The tokens of a JSON text. The reader takes one character at a time: it is between tokens,
  or inside a string, a number or a word, and what it has read of that token is its state. A string
  holds no bare control character; if half of a surrogate pair stands alone in it, it is well-formed
  but no text. A whole number that fits 64 bits, signed or not, is an integer; minus zero and all
  other numbers are floating point numbers, unreadable beyond their range.
Main exports: Token, Token.ofText?, ofNumber?
-/
import NginxFleet.Json.Basic
import NginxFleet.Number.Unsigned
import NginxFleet.Text.FormEncoded

namespace NginxFleet.Json

/-- A token: a bracket, a mark, a string, which may be no text, or another document that is a token
    by itself. -/
inductive Token where
  | openArray
  | closeArray
  | openObject
  | closeObject
  | colon
  | comma
  | string (text? : Option String)
  | atom (value : Json)
deriving Repr, Inhabited

/-- A part of a string: a character, or half of a surrogate pair by its number. -/
inductive TextUnit where
  | char (c : Char)
  | half (number : Nat)
deriving Repr, Inhabited

/-- Where the reader stands inside a string: between units, after a backslash, or after some of four
    hexadecimal digits. -/
inductive StringMode where
  | plain
  | escape
  | hex (count value : Nat)
deriving Repr, Inhabited

/-- Where the reader stands, with the parts of an unfinished token in reverse. -/
inductive Mode where
  | between
  | string (done : List TextUnit) (mode : StringMode)
  | number (done : List Char)
  | word (done : List Char)
deriving Repr, Inhabited

/-- The reader: where it stands, and the tokens so far in reverse. -/
structure Scan where
  mode : Mode
  tokens : List Token
deriving Repr, Inhabited

/-- A sign in front of a text and what follows it. -/
def splitMinus : List Char → Bool × List Char
  | '-' :: rest => (true, rest)
  | cs => (false, cs)

/-- A value followed by digits as far as the result fits 64 bits, and the number of digits that are
    left out. -/
def appendDigits : Nat → List Char → Nat × Nat
  | value, [] => (value, 0)
  | value, c :: rest =>
    let next := value * 10 + digitValue c
    if next < twoTo 64 then appendDigits next rest else (value, rest.length + 1)

/-- The exponent part of a number: an optional sign and digits after the letter. -/
def exponentPart? : List Char → Option Int
  | [] => some 0
  | c :: rest =>
    if c = 'e' ∨ c = 'E' then
      let (negative, digits) :=
        match rest with
        | '+' :: ds => (false, ds)
        | '-' :: ds => (true, ds)
        | ds => (false, ds)
      if digits.isEmpty || !digits.all Char.isDigit then none
      else some (if negative then -(digitsValue digits : Int) else digitsValue digits)
    else none

/-- The fraction digits and the exponent part of a number. -/
def fractionPart? : List Char → Option (List Char × List Char)
  | '.' :: rest =>
    let digits := rest.takeWhile Char.isDigit
    if digits.isEmpty then none else some (digits, rest.dropWhile Char.isDigit)
  | rest => some ([], rest)

/-- The document that the text of a number stands for, or nothing if it is no number. -/
def ofNumber? (cs : List Char) : Option Json := do
  let (negative, unsigned) := splitMinus cs
  let whole := unsigned.takeWhile Char.isDigit
  let rest := unsigned.dropWhile Char.isDigit
  if whole.isEmpty || (whole.length != 1 && whole.head? == some '0') then none
  let (fraction, tail) ← fractionPart? rest
  let exponent ← exponentPart? tail
  if rest.isEmpty && digitsValue whole < twoTo 64 && !negative then
    some (.int (digitsValue whole))
  else if rest.isEmpty && digitsValue whole ≤ twoTo 63 && negative && digitsValue whole != 0 then
    some (.int (-(digitsValue whole : Int)))
  else
    let (kept, above) := appendDigits 0 whole
    let (significand, below) := appendDigits kept fraction
    let scale : Int := exponent + above - (fraction.length - below : Nat)
    some (((Binary64.ofDecimal? negative significand scale).map .float).getD .unreadable)

/-- The document that a word stands for. -/
def ofWord? (cs : List Char) : Option Json :=
  if cs = ['n', 'u', 'l', 'l'] then some .null
  else if cs = ['t', 'r', 'u', 'e'] then some (.bool true)
  else if cs = ['f', 'a', 'l', 's', 'e'] then some (.bool false)
  else none

/-- A character of a number. -/
def isNumberChar (c : Char) : Bool :=
  c.isDigit || c == '-' || c == '+' || c == '.' || c == 'e' || c == 'E'

/-- The reading of a character between tokens. -/
def scanBetween (c : Char) (tokens : List Token) : Option Scan :=
  if c = ' ' ∨ c = '\n' ∨ c = '\t' ∨ c = '\r' then some ⟨.between, tokens⟩
  else if c = '[' then some ⟨.between, .openArray :: tokens⟩
  else if c = ']' then some ⟨.between, .closeArray :: tokens⟩
  else if c = '{' then some ⟨.between, .openObject :: tokens⟩
  else if c = '}' then some ⟨.between, .closeObject :: tokens⟩
  else if c = ':' then some ⟨.between, .colon :: tokens⟩
  else if c = ',' then some ⟨.between, .comma :: tokens⟩
  else if c = '"' then some ⟨.string [] .plain, tokens⟩
  else if c.isDigit || c == '-' then some ⟨.number [c], tokens⟩
  else if c.isLower then some ⟨.word [c], tokens⟩
  else none

/-- The character that a one-letter escape stands for. -/
def escaped? (c : Char) : Option Char :=
  if c = '"' ∨ c = '\\' ∨ c = '/' then some c
  else if c = 'b' then some (Char.ofNat 8)
  else if c = 'f' then some (Char.ofNat 12)
  else if c = 'n' then some '\n'
  else if c = 'r' then some '\r'
  else if c = 't' then some '\t'
  else none

/-- The unit that four hexadecimal digits stand for. -/
def TextUnit.ofNumber (number : Nat) : TextUnit :=
  if 0xD800 ≤ number ∧ number ≤ 0xDFFF then .half number else .char (Char.ofNat number)

/-- The character of a surrogate pair, if the halves are a first and a second one. -/
def pairedChar? (high low : Nat) : Option Char :=
  if high < 0xDC00 ∧ 0xDC00 ≤ low then
    some (Char.ofNat (0x10000 + (high - 0xD800) * 0x400 + (low - 0xDC00)))
  else none

/-- The characters of units in reverse order, in front of those that follow; nothing if half of a
    surrogate pair stands alone. -/
def joinReversed? : List TextUnit → List Char → Option (List Char)
  | [], joined => some joined
  | .char c :: rest, joined => joinReversed? rest (c :: joined)
  | .half low :: .half high :: rest, joined =>
    match pairedChar? high low with
    | some c => joinReversed? rest (c :: joined)
    | none => none
  | .half _ :: .char _ :: _, _ | [.half _], _ => none

/-- The reading of a character inside a string. -/
def scanString (done : List TextUnit) (c : Char) (tokens : List Token) :
    StringMode → Option Scan
  | .plain =>
    if c = '"' then
      some ⟨.between, .string ((joinReversed? done []).map String.ofList) :: tokens⟩
    else if c = '\\' then some ⟨.string done .escape, tokens⟩
    else if c.toNat < 0x20 then none
    else some ⟨.string (.char c :: done) .plain, tokens⟩
  | .escape =>
    if c = 'u' then some ⟨.string done (.hex 0 0), tokens⟩
    else (escaped? c).map fun d => ⟨.string (.char d :: done) .plain, tokens⟩
  | .hex count value =>
    (Text.hexDigit? c).map fun digit =>
      let value := value * 16 + digit
      if count = 3 then ⟨.string (TextUnit.ofNumber value :: done) .plain, tokens⟩
      else ⟨.string done (.hex (count + 1) value), tokens⟩

/-- The reading of one character. -/
def Scan.step (scan : Scan) (c : Char) : Option Scan :=
  match scan.mode with
  | .between => scanBetween c scan.tokens
  | .string done mode => scanString done c scan.tokens mode
  | .number done =>
    if isNumberChar c then some ⟨.number (c :: done), scan.tokens⟩
    else do
      let value ← ofNumber? done.reverse
      scanBetween c (.atom value :: scan.tokens)
  | .word done =>
    if c.isLower then some ⟨.word (c :: done), scan.tokens⟩
    else do
      let value ← ofWord? done.reverse
      scanBetween c (.atom value :: scan.tokens)

/-- The tokens when the text ends here. -/
def Scan.finish? (scan : Scan) : Option (List Token) :=
  match scan.mode with
  | .between => some scan.tokens.reverse
  | .string _ _ => none
  | .number done => (ofNumber? done.reverse).map fun v => (.atom v :: scan.tokens).reverse
  | .word done => (ofWord? done.reverse).map fun v => (.atom v :: scan.tokens).reverse

/-- The tokens of a text, or nothing if some part of it is no token. -/
def Token.ofText? (text : String) : Option (List Token) := do
  let scan ← text.toList.foldlM Scan.step ⟨.between, []⟩
  scan.finish?

end NginxFleet.Json
