/-
Module: NginxFleet.Proofs.Number.Spelling
Layer: Proofs
Purpose: How numbers are spelled. The text of a decimal has digits before the point, digits behind it
  and an exponent, with a point or an exponent at least; the reader takes it apart into the same
  digits and the same exponent, and they have the value of the decimal. The text of a whole number
  has digits only, and is read as this number if it fits 64 bits.
Main exports: Json.Spelled, Json.readDecimal, Json.Spelled.ofNumber?, Binary64.decimalText_spells,
  Json.ofNumber?_int
-/
import NginxFleet.Number.Shortest
import NginxFleet.Proofs.Number.Digits
import NginxFleet.Proofs.Number.Scaling

namespace NginxFleet

namespace Json

/-- A text has these digits before its point, these behind it, and then the text of this exponent. -/
structure Spelled (chars whole fraction tail : List Char) (exponent : Int) : Prop where
  plain : PlainDigits whole
  digits : ∀ c ∈ fraction, c.isDigit
  shape : chars = whole ++ ((if fraction = [] then [] else '.' :: fraction) ++ tail)
  power : exponentPart? tail = some exponent
  marked : tail = [] → fraction ≠ []
  letter : ∀ c ∈ tail.head?, c = 'e'
  marks : ∀ c ∈ tail, isNumberChar c

/-- The document for digits before a point, digits behind it and an exponent, as the reader takes them. -/
def readDecimal (negative : Bool) (whole fraction : List Char) (exponent : Int) : Json :=
  let (kept, above) := appendDigits 0 whole
  let (significand, below) := appendDigits kept fraction
  ((Binary64.ofDecimal? negative significand
    (exponent + above - (fraction.length - below : Nat))).map .float).getD .unreadable

/-- The sign of a number in front of its characters. -/
def withSign (negative : Bool) (chars : List Char) : List Char :=
  if negative then '-' :: chars else chars

theorem isNumberChar_of_isDigit {c : Char} (digit : c.isDigit) : isNumberChar c := by
  simp [isNumberChar, digit]

theorem ne_minus_of_isDigit {c : Char} (digit : c.isDigit) : c ≠ '-' := by
  rintro rfl
  cases digit

theorem splitMinus_withSign (negative : Bool) {chars : List Char}
    (unsigned : ∀ c ∈ chars.head?, c.isDigit) :
    splitMinus (withSign negative chars) = (negative, chars) := by
  cases negative with
  | true => rfl
  | false =>
      cases chars with
      | nil => rfl
      | cons c rest =>
          have other := ne_minus_of_isDigit (unsigned c rfl)
          unfold withSign splitMinus
          split
          · rename_i same
            cases same
            exact absurd rfl other
          · rfl

/-- The digits at the front of a text end where another character stands. -/
theorem takeWhile_digits {digits rest : List Char} (all : ∀ c ∈ digits, c.isDigit)
    (ends : ∀ c ∈ rest.head?, c.isDigit = false) :
    (digits ++ rest).takeWhile Char.isDigit = digits ∧
      (digits ++ rest).dropWhile Char.isDigit = rest := by
  rw [List.takeWhile_append_of_pos all, List.dropWhile_append_of_pos all]
  cases rest with
  | nil => simp
  | cons c later => simp [ends c rfl]

namespace Spelled

variable {chars whole fraction tail : List Char} {exponent : Int}

theorem ne_nil (spelled : Spelled chars whole fraction tail exponent) : chars ≠ [] := by
  rw [spelled.shape]
  simp [spelled.plain.ne_nil]

theorem head_isDigit (spelled : Spelled chars whole fraction tail exponent) :
    ∀ c ∈ chars.head?, c.isDigit := by
  rw [spelled.shape]
  cases digits : whole with
  | nil => exact absurd digits spelled.plain.ne_nil
  | cons first rest =>
      intro c found
      have same : first = c := by simpa using found
      exact spelled.plain.all c (digits ▸ same ▸ List.mem_cons_self)

/-- The reader finds the digits and the exponent that are spelled. -/
theorem ofNumber? (spelled : Spelled chars whole fraction tail exponent) (negative : Bool) :
    ofNumber? (withSign negative chars) = some (readDecimal negative whole fraction exponent) := by
  have tail_ends : ∀ c ∈ tail.head?, c.isDigit = false := by
    intro c found
    rw [spelled.letter c found]
    rfl
  set rest := (if fraction = [] then [] else '.' :: fraction) ++ tail with after
  have rest_ends : ∀ c ∈ rest.head?, c.isDigit = false := by
    intro c found
    by_cases none_ : fraction = []
    · exact tail_ends c (by simpa [after, none_] using found)
    · have point : c = '.' := by simpa [after, none_] using found.symm
      rw [point]
      rfl
  have signed : splitMinus (withSign negative chars) = (negative, whole ++ rest) := by
    rw [splitMinus_withSign negative spelled.head_isDigit, spelled.shape]
  have taken := takeWhile_digits spelled.plain.all rest_ends
  have parts : fractionPart? rest = some (fraction, tail) := by
    by_cases none_ : fraction = []
    · subst none_
      cases tail with
      | nil => exact absurd rfl (spelled.marked rfl)
      | cons c later =>
          have letter : c = 'e' := spelled.letter c rfl
          simp [after, letter, fractionPart?]
    · have digits := takeWhile_digits spelled.digits tail_ends
      simp [after, none_, fractionPart?, digits]
  have more : rest.isEmpty = false := by
    by_cases none_ : fraction = []
    · have longer : tail ≠ [] := fun empty => spelled.marked empty none_
      simp [after, none_, longer]
    · simp [after, none_]
  have plain : (whole.isEmpty || (whole.length != 1 && whole.head? == some '0')) = false := by
    have some_ := spelled.plain.ne_nil
    rcases spelled.plain.head with single | other
    · simp [single, some_]
    · simp [other, some_]
  unfold Json.ofNumber? readDecimal
  simp only [signed, taken, plain, parts, spelled.power, more, Bool.false_and, Option.bind_eq_bind,
    Option.bind_some, Bool.false_eq_true, if_false]

/-- All characters of a spelled number belong to numbers. -/
theorem isNumberChar_of_mem (spelled : Spelled chars whole fraction tail exponent) :
    ∀ c ∈ chars, isNumberChar c := by
  rw [spelled.shape]
  intro c found
  rcases List.mem_append.mp found with digit | later
  · exact isNumberChar_of_isDigit (spelled.plain.all c digit)
  · rcases List.mem_append.mp later with point | mark
    · by_cases none_ : fraction = []
      · simp [none_] at point
      · rw [if_neg none_] at point
        rcases List.mem_cons.mp point with rfl | digit
        · rfl
        · exact isNumberChar_of_isDigit (spelled.digits c digit)
    · exact spelled.marks c mark

end Spelled

/-!
### Whole numbers
-/

theorem toList_toString_int (i : Int) :
    (toString i).toList = withSign (decide (i < 0)) (Nat.toDigits 10 i.natAbs) := by
  cases i with
  | ofNat n =>
      show (toString n).toList = _
      simp [withSign]
  | negSucc n =>
      show ("-" ++ toString (n + 1)).toList = _
      simp [withSign]

/-- A whole number of 64 bits, signed or not, is read in its text. -/
theorem ofNumber?_int {i : Int} (low : -(twoTo 63 : Int) ≤ i) (high : i < twoTo 64) :
    Json.ofNumber? (toString i).toList = some (.int i) := by
  have plain := plainDigits_toDigits i.natAbs
  have unsigned : ∀ c ∈ (Nat.toDigits 10 i.natAbs).head?, c.isDigit := fun c found =>
    plain.all c (List.mem_of_mem_head? found)
  have ends : ∀ c ∈ ([] : List Char).head?, c.isDigit = false := by simp
  have taken := takeWhile_digits plain.all ends
  rw [List.append_nil] at taken
  have written : ((Nat.toDigits 10 i.natAbs).isEmpty || ((Nat.toDigits 10 i.natAbs).length != 1 &&
      (Nat.toDigits 10 i.natAbs).head? == some '0')) = false := by
    rcases plain.head with single | other
    · simp [single, plain.ne_nil]
    · simp [other, plain.ne_nil]
  rw [toList_toString_int]
  unfold Json.ofNumber?
  simp only [splitMinus_withSign _ unsigned, taken, written, fractionPart?, exponentPart?,
    digitsValue_toDigits, Option.bind_eq_bind, Option.bind_some, List.isEmpty_nil, Bool.true_and,
    Bool.false_eq_true, if_false]
  by_cases negative : i < 0
  · have bound : i.natAbs ≤ twoTo 63 := by omega
    have nonzero : i.natAbs ≠ 0 := by omega
    simp [negative, bound, nonzero, abs_of_neg negative]
  · have bound : i.natAbs < twoTo 64 := by omega
    simp [negative, bound, abs_of_nonneg (Int.not_lt.mp negative)]

/-!
### Decimals
-/

/-- Digits whose whole part is short and whose decimal is safe are read as a number. -/
theorem readDecimal_float {whole fraction : List Char} {exponent : Int} (negative : Bool)
    (digits : ∀ c ∈ whole, c.isDigit) (short : whole.length ≤ 19)
    (low : -1540 ≤ exponent - fraction.length)
    (safe : (digitsValue (whole ++ fraction) : ℚ) * 10 ^ (exponent - fraction.length) ≤
      Binary64.safeMagnitude) :
    ∃ x, readDecimal negative whole fraction exponent = .float x := by
  have fits : valueWith 0 whole < twoTo 64 := by
    rw [valueWith, Nat.zero_mul, Nat.zero_add]
    have few : (10 : Nat) ^ whole.length ≤ tenTo 19 := tenTo_mono short
    exact ((digitsValue_lt digits).trans_le few).trans (by decide +kernel)
  have taken := appendDigits_of_fits fits
  rw [valueWith, Nat.zero_mul, Nat.zero_add] at taken fits
  obtain ⟨small, few, less⟩ := appendDigits_le fits fraction
  set kept := appendDigits (digitsValue whole) fraction with found
  have scale : exponent + (0 : Nat) - (fraction.length - kept.2 : Nat) =
      exponent - fraction.length + kept.2 := by omega
  have lower : (kept.1 : ℚ) * 10 ^ (exponent - fraction.length + kept.2) ≤ Binary64.safeMagnitude := by
    have cast_less : (kept.1 : ℚ) * 10 ^ kept.2 ≤ digitsValue (whole ++ fraction) := by
      rw [digitsValue_append]
      exact_mod_cast less
    calc (kept.1 : ℚ) * 10 ^ (exponent - fraction.length + kept.2)
        = kept.1 * 10 ^ kept.2 * 10 ^ (exponent - fraction.length) := by
          rw [zpow_add₀ (by norm_num), zpow_natCast]
          ring
      _ ≤ digitsValue (whole ++ fraction) * 10 ^ (exponent - fraction.length) := by gcongr
      _ ≤ Binary64.safeMagnitude := safe
  obtain ⟨x, read⟩ := Option.isSome_iff_exists.mp
    (Binary64.ofDecimal?_isSome negative small (by omega) lower)
  refine ⟨x, ?_⟩
  simp only [readDecimal, taken, ← found, scale, read, Option.map_some, Option.getD_some]

end Json

/-!
### The text of a decimal
-/

theorem head?_toDigits_ne_zero {n : Nat} (nonzero : n ≠ 0) : (Nat.toDigits 10 n).head? ≠ some '0' := by
  intro leading
  rcases (plainDigits_toDigits n).head with single | other
  · cases digits : Nat.toDigits 10 n with
    | nil => exact absurd digits Nat.toDigits_ne_nil
    | cons c rest =>
        have value := digitsValue_toDigits n
        rw [digits] at single leading value
        cases leading
        rw [List.length_cons, Nat.add_eq_right, List.length_eq_zero_iff] at single
        subst single
        exact nonzero value.symm
  · exact other leading

namespace Binary64

open Json

/-- A text spells a decimal: its digits and its exponent have the value of the decimal, and there are
    few digits before the point. -/
structure SpellsDecimal (chars : List Char) (digits : Nat) (scale : Int) (whole fraction tail : List Char)
    (exponent : Int) : Prop where
  spelled : Spelled chars whole fraction tail exponent
  short : whole.length ≤ 19
  value : (digitsValue (whole ++ fraction) : ℚ) * 10 ^ (exponent - fraction.length) =
    digits * 10 ^ scale
  low : min scale (-1) ≤ exponent - fraction.length

section Forms

variable {digits : Nat} {scale : Int}

/-- All digits stand before the point, with zeros after them. -/
theorem spells_whole (sound : digits = 0 → scale = 0) (positive : 0 ≤ scale)
    (few : ((Nat.toDigits 10 digits).length : Int) + scale ≤ 16) :
    SpellsDecimal (Nat.toDigits 10 digits ++ List.replicate scale.toNat '0' ++ ['.', '0']) digits scale
      (Nat.toDigits 10 digits ++ List.replicate scale.toNat '0') ['0'] [] 0 := by
  have plain := plainDigits_toDigits digits
  refine ⟨⟨⟨?_, ?_, ?_⟩, ?_, ?_, rfl, ?_, ?_, ?_⟩, ?_, ?_, ?_⟩
  · intro c found
    rcases List.mem_append.mp found with digit | zero
    · exact plain.all c digit
    · rw [(List.mem_replicate.mp zero).2]
      rfl
  · simp [plain.ne_nil]
  · by_cases zero : digits = 0
    · simp [zero, sound zero]
    · refine .inr ?_
      rw [List.head?_append_of_ne_nil _ plain.ne_nil]
      exact head?_toDigits_ne_zero zero
  · simp
  · simp
  · simp
  · simp
  · simp
  · simp only [List.length_append, List.length_replicate]
    omega
  · obtain ⟨count, rfl⟩ := Int.eq_ofNat_of_zero_le positive
    rw [digitsValue_append, digitsValue_append, digitsValue_toDigits, digitsValue_zeros]
    simp [digitsValue, digitValue]
  · simp

/-- The point stands among the digits. -/
theorem spells_pointed {point : Nat} (sound : digits = 0 → scale = 0) (negative : scale < 0)
    (position : (point : Int) = (Nat.toDigits 10 digits).length + scale) (some_ : 0 < point)
    (few : point ≤ 16) :
    SpellsDecimal ((Nat.toDigits 10 digits).take point ++ '.' :: (Nat.toDigits 10 digits).drop point)
      digits scale ((Nat.toDigits 10 digits).take point) ((Nat.toDigits 10 digits).drop point) [] 0 := by
  have plain := plainDigits_toDigits digits
  have nonzero : digits ≠ 0 := fun zero => by
    have := sound zero
    omega
  have behind : (Nat.toDigits 10 digits).drop point ≠ [] := by
    rw [ne_eq, List.drop_eq_nil_iff]
    omega
  refine ⟨⟨⟨?_, ?_, ?_⟩, ?_, ?_, rfl, ?_, ?_, ?_⟩, ?_, ?_, ?_⟩
  · exact fun c found => plain.all c (List.mem_of_mem_take found)
  · rw [ne_eq, List.take_eq_nil_iff]
    simp [some_.ne', plain.ne_nil]
  · refine .inr ?_
    rw [List.head?_take, if_neg some_.ne']
    exact head?_toDigits_ne_zero nonzero
  · exact fun c found => plain.all c (List.mem_of_mem_drop found)
  · simp [behind]
  · exact fun _ => behind
  · simp
  · simp
  · rw [List.length_take]
    omega
  · have length : (0 : Int) - ((Nat.toDigits 10 digits).drop point).length = scale := by
      rw [List.length_drop]
      omega
    rw [List.take_append_drop, digitsValue_toDigits, length]
  · rw [List.length_drop]
    omega

/-- Zeros stand between the point and the digits. -/
theorem spells_small {zeros : Nat}
    (position : -(zeros : Int) = (Nat.toDigits 10 digits).length + scale) :
    SpellsDecimal ('0' :: '.' :: List.replicate zeros '0' ++ Nat.toDigits 10 digits) digits scale
      ['0'] (List.replicate zeros '0' ++ Nat.toDigits 10 digits) [] 0 := by
  have plain := plainDigits_toDigits digits
  refine ⟨⟨⟨?_, ?_, ?_⟩, ?_, ?_, rfl, ?_, ?_, ?_⟩, ?_, ?_, ?_⟩
  · simp
  · simp
  · simp
  · intro c found
    rcases List.mem_append.mp found with zero | digit
    · rw [(List.mem_replicate.mp zero).2]
      rfl
    · exact plain.all c digit
  · simp [plain.ne_nil]
  · simp [plain.ne_nil]
  · simp
  · simp
  · simp
  · have length : (0 : Int) - (List.replicate zeros '0' ++ Nat.toDigits 10 digits).length = scale := by
      rw [List.length_append, List.length_replicate]
      omega
    rw [digitsValue_append, digitsValue_append, digitsValue_toDigits, digitsValue_zeros, length]
    simp [digitsValue, digitValue]
  · rw [List.length_append, List.length_replicate]
    omega

/-- One digit stands before the point, and an exponent after the others. -/
theorem spells_powered {tail : List Char} {exponent : Int} (some_ : tail ≠ [])
    (power : exponentPart? tail = some exponent) (letter : ∀ c ∈ tail.head?, c = 'e')
    (marks : ∀ c ∈ tail, isNumberChar c)
    (position : exponent = (Nat.toDigits 10 digits).length + scale - 1) :
    SpellsDecimal ((if (Nat.toDigits 10 digits).length = 1 then Nat.toDigits 10 digits
        else (Nat.toDigits 10 digits).take 1 ++ '.' :: (Nat.toDigits 10 digits).drop 1) ++ tail)
      digits scale ((Nat.toDigits 10 digits).take 1) ((Nat.toDigits 10 digits).drop 1) tail
      exponent := by
  have plain := plainDigits_toDigits digits
  have more : 1 ≤ (Nat.toDigits 10 digits).length := Nat.length_toDigits_pos
  have length : exponent - (((Nat.toDigits 10 digits).drop 1).length : Int) = scale := by
    rw [List.length_drop]
    omega
  refine ⟨⟨⟨?_, ?_, ?_⟩, ?_, ?_, power, ?_, letter, marks⟩, ?_, ?_, ?_⟩
  · exact fun c found => plain.all c (List.mem_of_mem_take found)
  · rw [ne_eq, List.take_eq_nil_iff]
    simp [plain.ne_nil]
  · exact .inl (by rw [List.length_take]; omega)
  · exact fun c found => plain.all c (List.mem_of_mem_drop found)
  · by_cases single : (Nat.toDigits 10 digits).length = 1
    · have behind : (Nat.toDigits 10 digits).drop 1 = [] := List.drop_eq_nil_of_le single.le
      have front : (Nat.toDigits 10 digits).take 1 = Nat.toDigits 10 digits :=
        List.take_of_length_le single.le
      simp [single, behind, front]
    · have behind : (Nat.toDigits 10 digits).drop 1 ≠ [] := by
        rw [ne_eq, List.drop_eq_nil_iff]
        omega
      rw [if_neg single, if_neg behind, List.append_assoc]
  · exact fun empty => absurd empty some_
  · rw [List.length_take]
    omega
  · rw [List.take_append_drop, digitsValue_toDigits, length]
  · rw [length]
    exact min_le_left _ _

end Forms

/-- The text of an exponent, with its sign, is read as this exponent. -/
theorem exponentPart?_text (exponent : Int) :
    let tail := (if 0 ≤ exponent then "e+" else "e").toList ++ (toString exponent).toList
    tail ≠ [] ∧ exponentPart? tail = some exponent ∧ (∀ c ∈ tail.head?, c = 'e') ∧
      ∀ c ∈ tail, isNumberChar c := by
  have plain := plainDigits_toDigits exponent.natAbs
  have all : (Nat.toDigits 10 exponent.natAbs).all Char.isDigit = true := List.all_eq_true.mpr plain.all
  have some_ : (Nat.toDigits 10 exponent.natAbs).isEmpty = false := by simp
  have marks : ∀ c ∈ Nat.toDigits 10 exponent.natAbs, isNumberChar c := fun c found =>
    isNumberChar_of_isDigit (plain.all c found)
  intro tail
  by_cases positive : 0 ≤ exponent
  · have shape : tail = 'e' :: '+' :: Nat.toDigits 10 exponent.natAbs := by
      simp only [tail, toList_toString_int, if_pos positive, decide_eq_false (Int.not_lt.mpr positive)]
      rfl
    have value : (exponent.natAbs : Int) = exponent := Int.natAbs_of_nonneg positive
    rw [shape]
    refine ⟨by simp, ?_, by simp, ?_⟩
    · simp only [exponentPart?, all, some_, digitsValue_toDigits, value]
      simp
    · rintro c (_ | ⟨_, _ | ⟨_, found⟩⟩)
      · rfl
      · rfl
      · exact marks c found
  · have shape : tail = 'e' :: '-' :: Nat.toDigits 10 exponent.natAbs := by
      simp only [tail, toList_toString_int, if_neg positive, decide_eq_true (Int.not_le.mp positive)]
      rfl
    have value : -(exponent.natAbs : Int) = exponent := by omega
    rw [shape]
    refine ⟨by simp, ?_, by simp, ?_⟩
    · simp only [exponentPart?, all, some_, digitsValue_toDigits, value]
      simp
    · rintro c (_ | ⟨_, _ | ⟨_, found⟩⟩)
      · rfl
      · rfl
      · exact marks c found

/-- The text of a decimal spells it. -/
theorem decimalText_spells {digits : Nat} {scale : Int} (sound : digits = 0 → scale = 0) :
    ∃ whole fraction tail exponent,
      SpellsDecimal (decimalText digits scale).toList digits scale whole fraction tail exponent := by
  have more : 1 ≤ (Nat.toDigits 10 digits).length := Nat.length_toDigits_pos
  unfold decimalText
  simp only [Nat.toString_eq_repr, Nat.toList_repr]
  split
  · rename_i form
    rw [String.toList_ofList]
    exact ⟨_, _, _, _, spells_whole sound form.1 form.2⟩
  · split
    · rename_i long form
      rw [String.toList_ofList]
      obtain ⟨point, position⟩ := Int.eq_ofNat_of_zero_le form.1.le
      rw [position, Int.toNat_natCast]
      exact ⟨_, _, _, _, spells_pointed sound (by omega) position.symm (by omega) (by omega)⟩
    · split
      · rename_i form
        rw [String.toList_ofList]
        obtain ⟨zeros, position⟩ := Int.eq_ofNat_of_zero_le (Int.neg_nonneg.mpr form.2)
        rw [position, Int.toNat_natCast]
        exact ⟨_, _, _, _, spells_small (by omega)⟩
      · obtain ⟨some_, power, letter, marks⟩ :=
          exponentPart?_text ((Nat.toDigits 10 digits).length + scale - 1)
        have sign : (0 ≤ ((Nat.toDigits 10 digits).length : Int) + scale - 1) =
            (0 < ((Nat.toDigits 10 digits).length : Int) + scale) := propext (by omega)
        simp only [sign] at some_ power letter marks
        simp only [String.toList_append, String.toList_ofList, List.append_assoc]
        exact ⟨_, _, _, _, spells_powered some_ power letter marks rfl⟩

end Binary64

end NginxFleet
