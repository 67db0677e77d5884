/-
Module: NginxFleet.Time.Timestamp
Layer: Time
Purpose: Points in time in UTC, to the second. A text may give the local time at an offset and a
  fraction of a second; the reading moves it to UTC and drops the fraction. The text written has the
  form 2023-12-31T22:00:00Z.
Main exports: Timestamp, Timestamp.Valid, Timestamp.text, Timestamp.ofText?
-/
import NginxFleet.Number.Unsigned
import NginxFleet.Text.Blank
import NginxFleet.Time.Calendar

namespace NginxFleet

/-- A point in time in UTC. A second of 60 is a leap second. -/
structure Timestamp where
  date : Date
  hour : Nat
  minute : Nat
  second : Nat
deriving DecidableEq, Repr, Inhabited

namespace Timestamp

/-- A time on a date of the calendar. -/
structure Valid (t : Timestamp) : Prop where
  date : t.date.Valid
  hour : t.hour < 24
  minute : t.minute < 60
  second : t.second ≤ 60

/-!
### Writing
-/

/-- A number in decimal with at least the given number of digits. -/
def padded (width n : Nat) : List Char :=
  let digits := Nat.toDigits 10 n
  List.replicate (width - digits.length) '0' ++ digits

/-- A year: four digits, and a sign when they would not suffice. -/
def yearText (year : Int) : List Char :=
  if year < 0 then '-' :: padded 4 year.natAbs
  else if year ≤ 9999 then padded 4 year.natAbs
  else '+' :: padded 4 year.natAbs

/-- The characters of a point in time. -/
def chars (t : Timestamp) : List Char :=
  yearText t.date.year ++ '-' :: padded 2 t.date.month ++ '-' :: padded 2 t.date.day ++
    'T' :: padded 2 t.hour ++ ':' :: padded 2 t.minute ++ ':' :: padded 2 t.second ++ ['Z']

/-- The text of a point in time. -/
def text (t : Timestamp) : String :=
  String.ofList t.chars

/-!
### Reading

Each part of the reader takes its characters off the front and leaves the rest. Blanks may stand
before each number and each mark of the date and the time.
-/

/-- A number of one to `most` digits, after blanks. -/
def takeNumber (most : Nat) (s : List Char) : Option (Nat × List Char) :=
  let s := Text.trimFront s
  let digits := (s.take most).takeWhile Char.isDigit
  if digits.isEmpty then none else some (digitsValue digits, s.drop digits.length)

/-- A year: at most four digits, or a sign and any number of digits. -/
def takeYear (s : List Char) : Option (Int × List Char) :=
  let unlimited (rest : List Char) : Option (Nat × List Char) :=
    let digits := rest.takeWhile Char.isDigit
    if digits.isEmpty then none else some (digitsValue digits, rest.drop digits.length)
  match Text.trimFront s with
  | '-' :: rest => (unlimited rest).map fun (n, rest) => (-(n : Int), rest)
  | '+' :: rest => (unlimited rest).map fun (n, rest) => ((n : Int), rest)
  | s => (takeNumber 4 s).map fun (n, rest) => ((n : Int), rest)

/-- A mark, after blanks. -/
def takeMark (mark : Char) (s : List Char) : Option (List Char) :=
  match Text.trimFront s with
  | c :: rest => if c = mark then some rest else none
  | [] => none

/-- The fraction of a second, if there is one, is taken off and dropped. -/
def skipFraction : List Char → Option (List Char)
  | '.' :: rest =>
    if (rest.takeWhile Char.isDigit).isEmpty then none else some (rest.dropWhile Char.isDigit)
  | s => some s

/-- Exactly two digits. -/
def takeTwoDigits : List Char → Option (Nat × List Char)
  | a :: b :: rest =>
    if a.isDigit && b.isDigit then some (digitsValue [a, b], rest) else none
  | _ => none

/-- The offset from UTC in minutes: a letter for UTC, or a sign, two digits for the hours, colons or
    blanks, and two digits for the minutes. -/
def takeOffset (s : List Char) : Option (Int × List Char) :=
  match s with
  | c :: rest =>
    if (s.take 3).map Char.toLower = ['u', 't', 'c'] then some (0, s.drop 3)
    else if c = 'Z' ∨ c = 'z' then some (0, rest)
    else if c = '+' ∨ c = '-' ∨ c.toNat = 0x2212 then do
      let (hours, rest) ← takeTwoDigits rest
      let rest := rest.dropWhile fun c => c == ':' || Text.isBlank c
      let (minutes, rest) ← takeTwoDigits rest
      if 59 < minutes ∨ 23 < hours then none
      else
        let offset : Int := hours * 60 + minutes
        some (if c = '+' then offset else -offset, rest)
    else none
  | [] => none

/-- The same point in time on the clock of UTC, for a local time at an offset in minutes whose
    absolute value is less than a day. -/
def atOffset (local_ : Timestamp) (offset : Int) : Timestamp :=
  let minutes : Int := local_.hour * 60 + local_.minute - offset
  let (date, minutes) :=
    if minutes < 0 then (local_.date.previous, minutes + 1440)
    else if 1440 ≤ minutes then (local_.date.next, minutes - 1440)
    else (local_.date, minutes)
  ⟨date, (minutes / 60).toNat, (minutes % 60).toNat, local_.second⟩

/-- The point in time that a text gives, if it has the form of one and is on the calendar. -/
def ofText? (s : String) : Option Timestamp := do
  let (year, s) ← takeYear s.toList
  let s ← takeMark '-' s
  let (month, s) ← takeNumber 2 s
  let s ← takeMark '-' s
  let (day, s) ← takeNumber 2 s
  let s ←
    match s with
    | c :: rest => if c = 'T' ∨ c = 't' ∨ c = ' ' then some rest else none
    | [] => none
  let (hour, s) ← takeNumber 2 s
  let s ← takeMark ':' s
  let (minute, s) ← takeNumber 2 s
  let s ← takeMark ':' s
  let (second, s) ← takeNumber 2 s
  let s ← skipFraction s
  let (offset, s) ← takeOffset (Text.trimFront s)
  let date : Date := ⟨year, month, day⟩
  let moved := atOffset ⟨date, hour, minute, second⟩ offset
  if (Text.trimFront s).isEmpty ∧ date.Valid ∧ hour < 24 ∧ minute < 60 ∧ second ≤ 60 ∧
      moved.date.Valid then
    some moved
  else none

end Timestamp

end NginxFleet
