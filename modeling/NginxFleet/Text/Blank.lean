/-
Module: NginxFleet.Text.Blank
Layer: Text
Purpose: Blank characters, those with the Unicode property White_Space, and the text that is left
  once they are taken off both ends. A setting is read after trimming, and a setting that is blank
  throughout counts as empty.
Main exports: isBlank, trim
-/

namespace NginxFleet.Text

/-- Whether a character has the Unicode property White_Space (25 characters have it). -/
def isBlank (c : Char) : Bool :=
  let n := c.toNat
  (0x09 ≤ n && n ≤ 0x0D) || n == 0x20 || n == 0x85 || n == 0xA0 || n == 0x1680 ||
    (0x2000 ≤ n && n ≤ 0x200A) || n == 0x2028 || n == 0x2029 || n == 0x202F ||
    n == 0x205F || n == 0x3000

/-- The text without the blank characters at its front. -/
def trimFront (s : List Char) : List Char :=
  s.dropWhile isBlank

/-- The text without the blank characters at either end. -/
def trim (s : List Char) : List Char :=
  (trimFront (trimFront s).reverse).reverse

/-- Taking off the front leaves nothing exactly when every character is blank. -/
theorem trimFront_eq_nil_iff (s : List Char) :
    trimFront s = [] ↔ ∀ c ∈ s, isBlank c = true := by
  induction s with
  | nil => simp [trimFront]
  | cons c rest ih =>
    by_cases hc : isBlank c = true
    · simp only [trimFront, List.dropWhile_cons, hc, if_true, List.forall_mem_cons, true_and]
      exact ih
    · simp [trimFront, hc]

/-- What is left after taking off the front does not start with a blank character. -/
theorem trimFront_eq_cons {s rest : List Char} {c : Char} (h : trimFront s = c :: rest) :
    isBlank c = false := by
  induction s with
  | nil => simp [trimFront] at h
  | cons d tail ih =>
    by_cases hd : isBlank d = true
    · exact ih (by simpa [trimFront, List.dropWhile_cons, hd] using h)
    · simp only [trimFront, List.dropWhile_cons, hd] at h
      simp only [Bool.false_eq_true, if_false, List.cons.injEq] at h
      rw [← h.1]
      simpa using hd

/-- Trimming leaves nothing exactly when every character is blank. -/
theorem trim_eq_nil_iff (s : List Char) : trim s = [] ↔ ∀ c ∈ s, isBlank c = true := by
  have hback : trim s = [] ↔ ∀ c ∈ trimFront s, isBlank c = true := by
    simp [trim, trimFront_eq_nil_iff]
  rw [hback, ← trimFront_eq_nil_iff s]
  constructor
  · intro h
    cases hs : trimFront s with
    | nil => rfl
    | cons c rest =>
      have hc := h c (by simp [hs])
      simp [trimFront_eq_cons hs] at hc
  · intro h
    simp [h]

end NginxFleet.Text
