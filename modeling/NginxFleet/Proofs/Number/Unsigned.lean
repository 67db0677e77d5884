/-
Module: NginxFleet.Proofs.Number.Unsigned
Layer: Proofs
Purpose: Which characters are read as an unsigned number, and why others are not. A number is spelt by
  digits with perhaps one plus sign in front; it is too large as soon as the digits up to the first
  other character are, whatever follows them.
Main exports: SpellsNumber, ExceedsBits, UnsignedReading, readUnsigned_eq_iff
-/
import Mathlib.Data.List.TakeWhile
import NginxFleet.Proofs.Number.Digits

namespace NginxFleet

/-- Characters spell a number: perhaps one plus sign, and then its digits behind any zeros. -/
def SpellsNumber (chars : List Char) (n : Nat) : Prop :=
  ∃ digits, (chars = digits ∨ chars = '+' :: digits) ∧ digits ≠ [] ∧ (∀ c ∈ digits, c.isDigit) ∧
    Nat.ofDigitChars 10 digits 0 = n

/-- The digits behind the sign, up to the first other character, are those of a number that does not
    fit the bits. -/
def ExceedsBits (bits : Nat) (chars : List Char) : Prop :=
  ∃ digits rest, (chars = digits ++ rest ∨ chars = '+' :: (digits ++ rest)) ∧
    (∀ c ∈ digits, c.isDigit) ∧ (∀ c ∈ rest.head?, c.isDigit = false) ∧
    2 ^ bits ≤ Nat.ofDigitChars 10 digits 0

variable {bits n : Nat} {chars : List Char}

/-!
### Behind the sign
-/

theorem eq_withoutPlus (chars : List Char) :
    chars = withoutPlus chars ∨ chars = '+' :: withoutPlus chars := by
  unfold withoutPlus
  split
  · exact .inr rfl
  · exact .inl rfl

theorem withoutPlus_of_digit {c : Char} {rest : List Char} (digit : c.isDigit) :
    withoutPlus (c :: rest) = c :: rest := by
  unfold withoutPlus
  split
  · rename_i plus
    cases plus
    exact absurd digit (by decide)
  · rfl

/-- Behind the sign stand the digits with what follows them, if there are any. -/
theorem withoutPlus_of_digits {digits rest : List Char} (some_ : digits ≠ [])
    (all : ∀ c ∈ digits, c.isDigit)
    (split : chars = digits ++ rest ∨ chars = '+' :: (digits ++ rest)) :
    withoutPlus chars = digits ++ rest := by
  rcases split with rfl | rfl
  · cases digits with
    | nil => exact absurd rfl some_
    | cons c others => exact withoutPlus_of_digit (all c List.mem_cons_self)
  · rfl

theorem spellsNumber_iff :
    SpellsNumber chars n ↔ withoutPlus chars ≠ [] ∧ (∀ c ∈ withoutPlus chars, c.isDigit) ∧
      digitsValue (withoutPlus chars) = n := by
  simp only [digitsValue_eq_ofDigitChars]
  constructor
  · rintro ⟨digits, split, some_, all, value⟩
    rw [← List.append_nil digits] at split
    have behind : withoutPlus chars = digits := by
      rw [withoutPlus_of_digits some_ all split, List.append_nil]
    rw [behind]
    exact ⟨some_, all, value⟩
  · rintro ⟨some_, all, value⟩
    exact ⟨withoutPlus chars, eq_withoutPlus chars, some_, all, value⟩

theorem exceedsBits_iff :
    ExceedsBits bits chars ↔
      2 ^ bits ≤ digitsValue ((withoutPlus chars).takeWhile Char.isDigit) := by
  rw [digitsValue_eq_ofDigitChars]
  constructor
  · rintro ⟨digits, rest, split, all, stops, large⟩
    by_cases none_ : digits = []
    · subst none_
      exact absurd large (Nat.not_le.mpr (Nat.two_pow_pos bits))
    · have front : rest.takeWhile Char.isDigit = [] := by
        cases rest with
        | nil => rfl
        | cons c others => simp [stops c rfl]
      rw [withoutPlus_of_digits none_ all split, List.takeWhile_append_of_pos all, front,
        List.append_nil]
      exact large
  · intro large
    refine ⟨_, (withoutPlus chars).dropWhile Char.isDigit, ?_, ?_, ?_, large⟩
    · rw [List.takeWhile_append_dropWhile]
      exact eq_withoutPlus chars
    · exact fun c found => List.mem_takeWhile_imp found
    · intro c found
      have stops := List.head?_dropWhile_not Char.isDigit (withoutPlus chars)
      rw [Option.mem_def.mp found] at stops
      simpa using stops

/-!
### The reading
-/

theorem digits_cut_iff {body : List Char} :
    (body.takeWhile Char.isDigit = [] ∨
        (body.takeWhile Char.isDigit).length < body.length) ↔
      ¬ (body ≠ [] ∧ ∀ c ∈ body, c.isDigit) := by
  rw [← List.takeWhile_eq_self_iff]
  constructor
  · rintro (none_ | shorter) ⟨some_, whole⟩
    · exact some_ (whole.symm.trans none_)
    · rw [whole] at shorter
      exact Nat.lt_irrefl _ shorter
  · intro odd
    by_cases none_ : body = []
    · subst none_
      exact .inl rfl
    · have front : body.takeWhile Char.isDigit <+: body := List.takeWhile_prefix _
      refine .inr (Nat.lt_of_le_of_ne front.length_le fun same => ?_)
      exact odd ⟨none_, front.eq_of_length same⟩

/-- What is read in characters: nothing in none, the number that they spell if it fits, and otherwise the
    fault of their leading digits before that of any other character. -/
inductive UnsignedReading (bits : Nat) (chars : List Char) : Except UnsignedFault Nat → Prop where
  | empty (nothing : chars = []) : UnsignedReading bits chars (.error .empty)
  | tooLarge (exceeds : ExceedsBits bits chars) : UnsignedReading bits chars (.error .tooLarge)
  | number {n : Nat} (spelt : SpellsNumber chars n) (fits : n < 2 ^ bits) :
      UnsignedReading bits chars (.ok n)
  | invalidDigit (something : chars ≠ []) (within : ¬ ExceedsBits bits chars)
      (misspelt : ∀ n, ¬ SpellsNumber chars n) : UnsignedReading bits chars (.error .invalidDigit)

theorem unsignedReading_readUnsigned (bits : Nat) (chars : List Char) :
    UnsignedReading bits chars (readUnsigned bits chars) := by
  unfold readUnsigned twoTo
  split
  case isTrue nothing => exact .empty nothing
  case isFalse something =>
    dsimp only
    split
    case isTrue large => exact .tooLarge (exceedsBits_iff.mpr large)
    case isFalse small =>
      split
      case isTrue cut =>
        refine .invalidDigit something (fun exceeds => small (exceedsBits_iff.mp exceeds)) ?_
        intro n spelt
        obtain ⟨some_, all, -⟩ := spellsNumber_iff.mp spelt
        exact digits_cut_iff.mp cut ⟨some_, all⟩
      case isFalse uncut =>
        obtain ⟨some_, all⟩ := Decidable.not_not.mp fun odd => uncut (digits_cut_iff.mpr odd)
        rw [List.takeWhile_eq_self_iff.mpr all] at small ⊢
        exact .number (spellsNumber_iff.mpr ⟨some_, all, rfl⟩) (Nat.not_le.mp small)

/-- Characters that spell a number exceed the bits exactly if the number does. -/
theorem SpellsNumber.exceedsBits_iff (spelt : SpellsNumber chars n) :
    ExceedsBits bits chars ↔ 2 ^ bits ≤ n := by
  obtain ⟨-, all, value⟩ := spellsNumber_iff.mp spelt
  rw [NginxFleet.exceedsBits_iff, List.takeWhile_eq_self_iff.mpr all, value]

theorem SpellsNumber.unique {m : Nat} (spelt : SpellsNumber chars n) (again : SpellsNumber chars m) :
    n = m := by
  rw [← (spellsNumber_iff.mp spelt).2.2, (spellsNumber_iff.mp again).2.2]

theorem not_spellsNumber_nil : ¬ SpellsNumber [] n := fun spelt =>
  (spellsNumber_iff.mp spelt).1 rfl

theorem not_exceedsBits_nil : ¬ ExceedsBits bits [] := fun exceeds =>
  Nat.not_le.mpr (Nat.two_pow_pos bits) (exceedsBits_iff.mp exceeds)

/-- No characters are read in two ways. -/
theorem UnsignedReading.unique {result other : Except UnsignedFault Nat}
    (reading : UnsignedReading bits chars result) (again : UnsignedReading bits chars other) :
    result = other := by
  cases reading with
  | empty nothing =>
      subst nothing
      cases again with
      | empty => rfl
      | tooLarge exceeds => exact absurd exceeds not_exceedsBits_nil
      | number spelt => exact absurd spelt not_spellsNumber_nil
      | invalidDigit something => exact absurd rfl something
  | tooLarge exceeds =>
      cases again with
      | empty nothing => exact absurd (nothing ▸ exceeds) not_exceedsBits_nil
      | tooLarge => rfl
      | number spelt fits => exact absurd (spelt.exceedsBits_iff.mp exceeds) (Nat.not_le.mpr fits)
      | invalidDigit _ within => exact absurd exceeds within
  | number spelt fits =>
      cases again with
      | empty nothing => exact absurd (nothing ▸ spelt) not_spellsNumber_nil
      | tooLarge exceeds => exact absurd (spelt.exceedsBits_iff.mp exceeds) (Nat.not_le.mpr fits)
      | number same => rw [spelt.unique same]
      | invalidDigit _ _ misspelt => exact absurd spelt (misspelt _)
  | invalidDigit something within misspelt =>
      cases again with
      | empty nothing => exact absurd nothing something
      | tooLarge exceeds => exact absurd exceeds within
      | number spelt => exact absurd spelt (misspelt _)
      | invalidDigit => rfl

theorem readUnsigned_eq_iff {result : Except UnsignedFault Nat} :
    readUnsigned bits chars = result ↔ UnsignedReading bits chars result := by
  constructor
  · rintro rfl
    exact unsignedReading_readUnsigned bits chars
  · exact (unsignedReading_readUnsigned bits chars).unique

end NginxFleet
