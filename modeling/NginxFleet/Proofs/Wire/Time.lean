/-
Module: NginxFleet.Proofs.Wire.Time
Layer: Proofs
Purpose: Points in time survive their text. The writer pads every number to a fixed width, so each
  reader of a part takes exactly what was written of it; only a year beyond four digits has no fixed
  width, and there the mark behind it ends the number. Whatever text was read, the result is on the
  calendar, and so it can be written and read again.
Main exports: Timestamp.ofText?_text, Timestamp.valid_of_ofText?, readTime_ofTime
-/
import Mathlib.Data.List.TakeWhile
import NginxFleet.Number.Power
import NginxFleet.Object.Meta
import NginxFleet.Proofs.Number.Digits
import NginxFleet.Proofs.Wire.Record

namespace NginxFleet

namespace Text

theorem isBlank_of_isDigit {c : Char} (digit : c.isDigit) : isBlank c = false := by
  simp only [Char.isDigit, ge_iff_le, Bool.and_eq_true, decide_eq_true_eq,
    UInt32.le_iff_toNat_le] at digit
  change 48 ≤ c.toNat ∧ c.toNat ≤ 57 at digit
  simp only [isBlank, Bool.or_eq_false_iff, Bool.and_eq_false_iff, decide_eq_false_iff_not,
    beq_eq_false_iff_ne]
  omega

theorem trimFront_cons_of_not_blank {c : Char} {rest : List Char} (mark : isBlank c = false) :
    trimFront (c :: rest) = c :: rest := by
  simp [trimFront, mark]

end Text

namespace Timestamp

/-!
### Numbers of a fixed width
-/

theorem isDigit_of_mem_padded {width n : Nat} {c : Char} (found : c ∈ padded width n) :
    c.isDigit := by
  rcases List.mem_append.mp found with zero | digit
  · rw [(List.mem_replicate.mp zero).2]
    rfl
  · exact Nat.isDigit_of_mem_toDigits (by decide) (by decide) digit

theorem padded_ne_nil (width n : Nat) : padded width n ≠ [] := by
  unfold padded
  simp [Nat.toDigits_ne_nil]

theorem length_padded {width n : Nat} (wide : 0 < width) (small : n < tenTo width) :
    (padded width n).length = width := by
  have short : (Nat.toDigits 10 n).length ≤ width :=
    (Nat.length_toDigits_le_iff (by decide) wide).mpr small
  simp only [padded, List.length_append, List.length_replicate]
  omega

theorem ofDigitChars_zeros (count : Nat) (digits : List Char) :
    Nat.ofDigitChars 10 (List.replicate count '0' ++ digits) 0 = Nat.ofDigitChars 10 digits 0 := by
  induction count with
  | zero => rfl
  | succ count ih => exact ih

theorem digitsValue_padded (width n : Nat) : digitsValue (padded width n) = n := by
  rw [digitsValue_eq_ofDigitChars, padded, ofDigitChars_zeros, Nat.ofDigitChars_ten_toDigits]

theorem trimFront_padded (width n : Nat) (rest : List Char) :
    Text.trimFront (padded width n ++ rest) = padded width n ++ rest := by
  cases digits : padded width n with
  | nil => exact absurd digits (padded_ne_nil width n)
  | cons c others =>
      have first : c.isDigit := isDigit_of_mem_padded (digits ▸ List.mem_cons_self)
      exact Text.trimFront_cons_of_not_blank (Text.isBlank_of_isDigit first)

/-- A number that fits its width is read back, whatever follows it. -/
theorem takeNumber_padded {width n : Nat} (wide : 0 < width) (small : n < tenTo width)
    (rest : List Char) : takeNumber width (padded width n ++ rest) = some (n, rest) := by
  have length := length_padded wide small
  have front : (padded width n ++ rest).take width = padded width n := List.take_left' length
  have digits : (padded width n).takeWhile Char.isDigit = padded width n :=
    List.takeWhile_eq_self_iff.mpr fun c found => isDigit_of_mem_padded found
  have some_digits : (padded width n).isEmpty = false := by
    simpa using padded_ne_nil width n
  have behind : (padded width n ++ rest).drop (padded width n).length = rest := List.drop_left
  simp [takeNumber, trimFront_padded, front, digits, some_digits, digitsValue_padded, behind]

theorem takeMark_cons {mark : Char} (rest : List Char) (dark : Text.isBlank mark = false) :
    takeMark mark (mark :: rest) = some rest := by
  simp [takeMark, Text.trimFront_cons_of_not_blank dark]

/-!
### Years

The dash behind a year is no digit, so it also ends a year of more than four digits.
-/

theorem takeWhile_padded (width n : Nat) (rest : List Char) :
    (padded width n ++ '-' :: rest).takeWhile Char.isDigit = padded width n := by
  rw [List.takeWhile_append_of_pos fun c found => isDigit_of_mem_padded found]
  simp [Char.isDigit]

theorem mem_of_append_eq_cons {width n : Nat} {c : Char} {rest tail : List Char}
    (start : padded width n ++ rest = c :: tail) : c ∈ padded width n := by
  cases digits : padded width n with
  | nil => exact absurd digits (padded_ne_nil width n)
  | cons first others =>
      rw [digits] at start
      cases start
      exact List.mem_cons_self

theorem takeYear_yearText (year : Int) (rest : List Char) :
    takeYear (yearText year ++ '-' :: rest) = some (year, '-' :: rest) := by
  have some_digits : (padded 4 year.natAbs).isEmpty = false := by
    simpa using padded_ne_nil 4 year.natAbs
  have value := digitsValue_padded 4 year.natAbs
  have behind : (padded 4 year.natAbs ++ '-' :: rest).drop (padded 4 year.natAbs).length =
      '-' :: rest := List.drop_left
  unfold yearText
  by_cases negative : year < 0
  · rw [if_pos negative]
    have sign : -(year.natAbs : Int) = year := by omega
    have front : Text.trimFront ('-' :: (padded 4 year.natAbs ++ '-' :: rest)) =
        '-' :: (padded 4 year.natAbs ++ '-' :: rest) :=
      Text.trimFront_cons_of_not_blank (by decide)
    have taken : takeYear ('-' :: (padded 4 year.natAbs ++ '-' :: rest)) =
        some (-(year.natAbs : Int), '-' :: rest) := by
      simp [takeYear, front, takeWhile_padded, some_digits, value, behind]
    rw [List.cons_append, taken, sign]
  · rw [if_neg negative]
    have positive : (year.natAbs : Int) = year := by omega
    by_cases short : year ≤ 9999
    · rw [if_pos short]
      have number : takeNumber 4 (padded 4 year.natAbs ++ '-' :: rest) =
          some (year.natAbs, '-' :: rest) := by
        have few : year.natAbs < tenTo 4 := by
          have tenThousand : tenTo 4 = 10000 := rfl
          omega
        exact takeNumber_padded (by decide) few _
      have unsigned : takeYear (padded 4 year.natAbs ++ '-' :: rest) =
          (takeNumber 4 (padded 4 year.natAbs ++ '-' :: rest)).map fun found =>
            ((found.1 : Int), found.2) := by
        unfold takeYear
        simp only [trimFront_padded]
        split
        · rename_i tail start
          exact absurd (isDigit_of_mem_padded (mem_of_append_eq_cons start)) (by decide)
        · rename_i tail start
          exact absurd (isDigit_of_mem_padded (mem_of_append_eq_cons start)) (by decide)
        · rfl
      rw [unsigned, number]
      simp [positive]
    · rw [if_neg short]
      have front : Text.trimFront ('+' :: (padded 4 year.natAbs ++ '-' :: rest)) =
          '+' :: (padded 4 year.natAbs ++ '-' :: rest) :=
        Text.trimFront_cons_of_not_blank (by decide)
      simp [takeYear, front, takeWhile_padded, some_digits, value, behind, positive]

/-!
### The whole text
-/

theorem atOffset_zero {t : Timestamp} (hour : t.hour < 24) (minute : t.minute < 60) :
    atOffset t 0 = t := by
  unfold atOffset
  have low : ¬ ((t.hour : Int) * 60 + t.minute - 0 < 0) := by omega
  have high : ¬ (1440 ≤ (t.hour : Int) * 60 + t.minute - 0) := by omega
  simp only [if_neg low, if_neg high]
  have hours : (((t.hour : Int) * 60 + t.minute - 0) / 60).toNat = t.hour := by omega
  have minutes : (((t.hour : Int) * 60 + t.minute - 0) % 60).toNat = t.minute := by omega
  rw [hours, minutes]

/-- A point in time on the calendar is read back from its text. -/
theorem ofText?_text {t : Timestamp} (valid : t.Valid) : ofText? t.text = some t := by
  obtain ⟨⟨year, month, day⟩, hour, minute, second⟩ := t
  have hundred : tenTo 2 = 100 := rfl
  have month_small : month < tenTo 2 := by have := valid.date.month; simp only at this; omega
  have day_small : day < tenTo 2 := by
    have upper := valid.date.day.2
    have short : daysInMonth year month ≤ 31 := by
      unfold daysInMonth
      split
      · split <;> omega
      · split <;> omega
    simp only at upper
    omega
  have hour_small : hour < tenTo 2 := by have := valid.hour; simp only at this; omega
  have minute_small : minute < tenTo 2 := by have := valid.minute; simp only at this; omega
  have second_small : second < tenTo 2 := by have := valid.second; simp only at this; omega
  have dash : Text.isBlank '-' = false := by decide
  have colon : Text.isBlank ':' = false := by decide
  have layout : chars ⟨⟨year, month, day⟩, hour, minute, second⟩ =
      yearText year ++ '-' :: (padded 2 month ++ '-' :: (padded 2 day ++ 'T' ::
        (padded 2 hour ++ ':' :: (padded 2 minute ++ ':' :: (padded 2 second ++ ['Z']))))) := by
    simp [chars]
  unfold ofText? text
  rw [String.toList_ofList, layout]
  refine Option.bind_eq_some_iff.mpr ⟨_, takeYear_yearText year _, ?_⟩
  refine Option.bind_eq_some_iff.mpr ⟨_, takeMark_cons _ dash, ?_⟩
  refine Option.bind_eq_some_iff.mpr ⟨_, takeNumber_padded Nat.two_pos month_small _, ?_⟩
  refine Option.bind_eq_some_iff.mpr ⟨_, takeMark_cons _ dash, ?_⟩
  refine Option.bind_eq_some_iff.mpr ⟨_, takeNumber_padded Nat.two_pos day_small _, ?_⟩
  refine Option.bind_eq_some_iff.mpr ⟨_, takeNumber_padded Nat.two_pos hour_small _, ?_⟩
  refine Option.bind_eq_some_iff.mpr ⟨_, takeMark_cons _ colon, ?_⟩
  refine Option.bind_eq_some_iff.mpr ⟨_, takeNumber_padded Nat.two_pos minute_small _, ?_⟩
  refine Option.bind_eq_some_iff.mpr ⟨_, takeMark_cons _ colon, ?_⟩
  refine Option.bind_eq_some_iff.mpr ⟨_, takeNumber_padded Nat.two_pos second_small _, ?_⟩
  refine Option.bind_eq_some_iff.mpr ⟨['Z'], rfl, ?_⟩
  refine Option.bind_eq_some_iff.mpr ⟨(0, []), by decide, ?_⟩
  have unmoved := atOffset_zero valid.hour valid.minute
  dsimp only
  rw [unmoved, if_pos]
  exact ⟨rfl, valid.date, valid.hour, valid.minute, valid.second, valid.date⟩

/-!
### What is read is on the calendar
-/

theorem takeOffset_bound {s rest : List Char} {offset : Int}
    (taken : takeOffset s = some (offset, rest)) : -1440 < offset ∧ offset < 1440 := by
  unfold takeOffset at taken
  split at taken
  · split at taken
    · cases taken
      decide
    · split at taken
      · cases taken
        decide
      · split at taken
        · simp only [Option.bind_eq_bind, Option.bind_eq_some_iff] at taken
          obtain ⟨⟨hours, behind⟩, _, ⟨minutes, tail⟩, _, checked⟩ := taken
          split at checked
          · cases checked
          · rename_i small
            cases checked
            simp only at small
            split <;> omega
        · cases taken
  · cases taken

theorem atOffset_clock {t : Timestamp} {offset : Int} (hour : t.hour < 24) (minute : t.minute < 60)
    (bound : -1440 < offset ∧ offset < 1440) :
    (atOffset t offset).hour < 24 ∧ (atOffset t offset).minute < 60 := by
  by_cases early : (t.hour : Int) * 60 + t.minute - offset < 0
  · simp only [atOffset, if_pos early]
    omega
  · by_cases late : 1440 ≤ (t.hour : Int) * 60 + t.minute - offset
    · simp only [atOffset, if_neg early, if_pos late]
      omega
    · simp only [atOffset, if_neg early, if_neg late]
      omega

theorem valid_of_ofText? {s : String} {t : Timestamp} (reading : ofText? s = some t) :
    t.Valid := by
  unfold ofText? at reading
  simp only [Option.bind_eq_bind] at reading
  obtain ⟨⟨year, s1⟩, _, reading⟩ := Option.bind_eq_some_iff.mp reading
  obtain ⟨s2, _, reading⟩ := Option.bind_eq_some_iff.mp reading
  obtain ⟨⟨month, s3⟩, _, reading⟩ := Option.bind_eq_some_iff.mp reading
  obtain ⟨s4, _, reading⟩ := Option.bind_eq_some_iff.mp reading
  obtain ⟨⟨day, s5⟩, _, reading⟩ := Option.bind_eq_some_iff.mp reading
  cases s5 with
  | nil => cases reading
  | cons c s6 =>
      dsimp only at reading
      by_cases separator : c = 'T' ∨ c = 't' ∨ c = ' '
      · rw [if_pos separator] at reading
        obtain ⟨_, _, reading⟩ := Option.bind_eq_some_iff.mp reading
        obtain ⟨⟨hour, s7⟩, _, reading⟩ := Option.bind_eq_some_iff.mp reading
        obtain ⟨s8, _, reading⟩ := Option.bind_eq_some_iff.mp reading
        obtain ⟨⟨minute, s9⟩, _, reading⟩ := Option.bind_eq_some_iff.mp reading
        obtain ⟨s10, _, reading⟩ := Option.bind_eq_some_iff.mp reading
        obtain ⟨⟨second, s11⟩, _, reading⟩ := Option.bind_eq_some_iff.mp reading
        obtain ⟨s12, _, reading⟩ := Option.bind_eq_some_iff.mp reading
        obtain ⟨⟨offset, s13⟩, zone, checked⟩ := Option.bind_eq_some_iff.mp reading
        split at checked
        · rename_i fits
          obtain ⟨_, _, hour_small, minute_small, second_small, moved⟩ := fits
          cases checked
          have clock := atOffset_clock hour_small minute_small (takeOffset_bound zone)
            (t := ⟨⟨year, month, day⟩, hour, minute, second⟩)
          exact ⟨moved, clock.1, clock.2, second_small⟩
        · cases checked
      · rw [if_neg separator] at reading
        cases reading

end Timestamp

theorem readTime_ofTime {t : Timestamp} (valid : t.Valid) : readTime (ofTime t) = some t :=
  Timestamp.ofText?_text valid

theorem valid_of_readTime {document : Json} {t : Timestamp}
    (reading : readTime document = some t) : t.Valid := by
  cases document with
  | str text => exact Timestamp.valid_of_ofText? reading
  | _ => cases reading

@[simp] theorem received_ofTime (t : Timestamp) : (ofTime t).received = ofTime t := rfl

end NginxFleet
