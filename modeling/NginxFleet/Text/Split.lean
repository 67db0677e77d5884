/-
Module: NginxFleet.Text.Split
Layer: Text
Purpose: Splitting a text at each occurrence of a character, or at the first one only.
Main exports: split, cutAt?
-/

namespace NginxFleet.Text

/-- The parts of a list between the occurrences of a mark; there is always at least one. -/
def splitChars (mark : Char) : List Char → List (List Char)
  | [] => [[]]
  | c :: rest =>
    match splitChars mark rest with
    | [] => [[]]
    | part :: parts => if c = mark then [] :: part :: parts else (c :: part) :: parts

/-- The parts of a text between the occurrences of a mark. -/
def split (mark : Char) (text : String) : List String :=
  (splitChars mark text.toList).map String.ofList

/-- What stands before and after the first occurrence of a mark. -/
def cutCharsAt? (mark : Char) : List Char → Option (List Char × List Char)
  | [] => none
  | c :: rest =>
    if c = mark then some ([], rest)
    else (cutCharsAt? mark rest).map fun parts => (c :: parts.1, parts.2)

/-- What stands before and after the first occurrence of a mark in a text. -/
def cutAt? (mark : Char) (text : String) : Option (String × String) :=
  (cutCharsAt? mark text.toList).map fun parts => (String.ofList parts.1, String.ofList parts.2)

theorem splitChars_ne_nil (mark : Char) (chars : List Char) : splitChars mark chars ≠ [] := by
  cases chars with
  | nil => simp [splitChars]
  | cons c rest =>
    simp only [splitChars]
    split
    · simp
    · split <;> simp

/-- A part without the mark and the mark behind it are the first part. -/
theorem splitChars_append (mark : Char) (part rest : List Char) (h : mark ∉ part) :
    splitChars mark (part ++ mark :: rest) = part :: splitChars mark rest := by
  induction part with
  | nil =>
    cases hs : splitChars mark rest with
    | nil => exact absurd hs (splitChars_ne_nil mark rest)
    | cons first others => simp [splitChars, hs]
  | cons c part ih =>
    have hc : c ≠ mark := fun heq => h (by simp [heq])
    have hp : mark ∉ part := fun hm => h (List.mem_cons_of_mem _ hm)
    simp [splitChars, ih hp, hc]

/-- Text without the mark is one part. -/
theorem splitChars_of_not_mem (mark : Char) (part : List Char) (h : mark ∉ part) :
    splitChars mark part = [part] := by
  induction part with
  | nil => rfl
  | cons c part ih =>
    have hc : c ≠ mark := fun heq => h (by simp [heq])
    have hp : mark ∉ part := fun hm => h (List.mem_cons_of_mem _ hm)
    simp [splitChars, ih hp, hc]

/-- A part without the mark stands before it. -/
theorem cutCharsAt?_append {mark : Char} {part : List Char} (h : mark ∉ part) (rest : List Char) :
    cutCharsAt? mark (part ++ mark :: rest) = some (part, rest) := by
  induction part with
  | nil => simp [cutCharsAt?]
  | cons c part ih =>
    have hc : c ≠ mark := fun heq => h (by simp [heq])
    have hp : mark ∉ part := fun hm => h (List.mem_cons_of_mem _ hm)
    simp [cutCharsAt?, hc, ih hp]

end NginxFleet.Text
