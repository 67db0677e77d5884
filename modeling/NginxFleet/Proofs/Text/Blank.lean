/-
Module: NginxFleet.Proofs.Text.Blank
Layer: Proofs
Purpose: What trimming leaves. Between the blank characters at both ends of a text stands one part that
  neither begins nor ends with one, and no other part does so; trimming finds it.
Main exports: AllBlank, TrimmedTo, trimmedTo_trim, TrimmedTo.trim_eq
-/
import Mathlib.Data.List.TakeWhile
import NginxFleet.Text.Blank

namespace NginxFleet.Text

/-- Every character is blank. -/
def AllBlank (chars : List Char) : Prop :=
  ∀ c ∈ chars, isBlank c

/-- Characters with the blank ones at both ends taken off. -/
structure TrimmedTo (chars core : List Char) : Prop where
  between : ∃ before after, AllBlank before ∧ AllBlank after ∧ chars = before ++ core ++ after
  first : ∀ c ∈ core.head?, isBlank c = false
  last : ∀ c ∈ core.getLast?, isBlank c = false

theorem AllBlank.reverse {chars : List Char} (blank : AllBlank chars) : AllBlank chars.reverse :=
  fun c found => blank c (List.mem_reverse.mp found)

/-!
### One end
-/

theorem trimFront_append {before : List Char} (blank : AllBlank before) (rest : List Char) :
    trimFront (before ++ rest) = trimFront rest :=
  List.dropWhile_append_of_pos blank

theorem trimFront_of_first {chars : List Char} (first : ∀ c ∈ chars.head?, isBlank c = false) :
    trimFront chars = chars := by
  cases chars with
  | nil => rfl
  | cons c rest => simp [trimFront, first c rfl]

theorem first_trimFront {chars : List Char} : ∀ c ∈ (trimFront chars).head?, isBlank c = false := by
  intro c found
  obtain ⟨rest, front⟩ := List.head?_eq_some_iff.mp found
  exact trimFront_eq_cons front

theorem exists_append_trimFront (chars : List Char) :
    ∃ before, AllBlank before ∧ chars = before ++ trimFront chars :=
  ⟨chars.takeWhile isBlank, fun _ found => List.mem_takeWhile_imp found,
    List.takeWhile_append_dropWhile.symm⟩

/-!
### Both ends
-/

theorem trimmedTo_trim (chars : List Char) : TrimmedTo chars (trim chars) := by
  obtain ⟨before, blankBefore, front⟩ := exists_append_trimFront chars
  obtain ⟨after, blankAfter, back⟩ := exists_append_trimFront (trimFront chars).reverse
  have middle : trimFront chars = trim chars ++ after.reverse := by
    rw [trim, ← List.reverse_append, ← back, List.reverse_reverse]
  refine ⟨⟨before, after.reverse, blankBefore, blankAfter.reverse, ?_⟩, ?_, ?_⟩
  · rw [List.append_assoc, ← middle]
    exact front
  · intro c found
    obtain ⟨rest, core⟩ := List.head?_eq_some_iff.mp found
    rw [core] at middle
    exact trimFront_eq_cons middle
  · intro c found
    rw [trim, List.getLast?_reverse] at found
    exact first_trimFront c found

theorem TrimmedTo.trim_eq {chars core : List Char} (trimmed : TrimmedTo chars core) :
    trim chars = core := by
  obtain ⟨⟨before, after, blankBefore, blankAfter, rfl⟩, first, last⟩ := trimmed
  cases core with
  | nil =>
      rw [trim_eq_nil_iff, List.append_nil]
      intro c found
      rcases List.mem_append.mp found with inFront | behind
      · exact blankBefore c inFront
      · exact blankAfter c behind
  | cons c rest =>
      have front : trimFront (before ++ (c :: rest) ++ after) = c :: rest ++ after := by
        rw [List.append_assoc, trimFront_append blankBefore]
        exact trimFront_of_first first
      have back : trimFront (c :: rest ++ after).reverse = (c :: rest).reverse := by
        rw [List.reverse_append, trimFront_append blankAfter.reverse]
        apply trimFront_of_first
        rw [List.head?_reverse]
        exact last
      rw [trim, front, back, List.reverse_reverse]

end NginxFleet.Text
