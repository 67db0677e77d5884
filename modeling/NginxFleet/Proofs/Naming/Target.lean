/-
Module: NginxFleet.Proofs.Naming.Target
Layer: Proofs
Purpose: Which texts are targets, and what a path refers to. A text of plain characters that is not too
  long is a target, and its path and query are what stands before and after the question mark. A path
  that was put together from parts without slashes is taken apart into these parts again.
Main exports: Target.Plain, Target.ofText_of_plain, joined, splitChars_joined, plain_formEncode
-/
import Mathlib.Data.List.TakeWhile
import NginxFleet.Http.Target
import NginxFleet.Proofs.Naming.Dns
import NginxFleet.Text.FormEncoded

namespace NginxFleet

namespace Target

/-- A character that may stand in a path and in a query and that ends neither. -/
structure Plain (c : Char) : Prop where
  path : refusedInPath c = false
  query : refusedInQuery c = false
  number : c ≠ '#'
  question : c ≠ '?'

instance (c : Char) : Decidable (Plain c) :=
  decidable_of_iff
    (refusedInPath c = false ∧ refusedInQuery c = false ∧ c ≠ '#' ∧ c ≠ '?')
    ⟨fun h => ⟨h.1, h.2.1, h.2.2.1, h.2.2.2⟩, fun h => ⟨h.path, h.query, h.number, h.question⟩⟩

/-- A character with one of these numbers is plain. -/
theorem plain_of_toNat {c : Char} (low : 0x23 < c.toNat) (high : c.toNat < 0x7F)
    (less : c.toNat ≠ 0x3C) (greater : c.toNat ≠ 0x3E) (question : c.toNat ≠ 0x3F)
    (grave : c.toNat ≠ 0x60) : Plain c := by
  have apart : ∀ d : Char, c.toNat ≠ d.toNat → c ≠ d := by
    rintro d different rfl
    exact different rfl
  have noLess : c ≠ '<' := apart '<' less
  have noGreater : c ≠ '>' := apart '>' greater
  have noQuote : c ≠ '"' := apart '"' (by show c.toNat ≠ 0x22; omega)
  refine ⟨?_, ?_, apart '#' (by show c.toNat ≠ 0x23; omega), apart '?' question⟩
  · simp [refusedInPath, noLess, noGreater, grave]
    omega
  · simp [refusedInQuery, noLess, noGreater, noQuote]
    omega

theorem plain_of_isNameChar {c : Char} (valid : Dns.isNameChar c) : Plain c := by
  have number := Dns.toNat_of_isNameChar valid
  exact plain_of_toNat (by omega) (by omega) (by omega) (by omega) (by omega) (by omega)

/-!
### Texts that are targets
-/

theorem utf8ByteSize_ofList_le (chars : List Char) :
    (String.ofList chars).utf8ByteSize ≤ 4 * chars.length := by
  induction chars with
  | nil => simp
  | cons c rest ih =>
      have width : c.utf8Size ≤ 4 := Char.utf8Size_le_four c
      rw [String.ofList_cons, String.utf8ByteSize_append, String.utf8ByteSize_singleton,
        List.length_cons]
      omega

/-- A plain path, alone or with a plain query, is the target that it spells. -/
theorem ofText_of_plain {text : String} {path query tail : List Char}
    (spelled : text.toList = path ++ tail)
    (behind : tail = [] ∧ query = [] ∨ tail = '?' :: query)
    (plainPath : ∀ c ∈ path, Plain c) (plainQuery : ∀ c ∈ query, Plain c)
    (short : text.utf8ByteSize ≤ longest) :
    ofText text = .ok ⟨String.ofList path, String.ofList query⟩ := by
  have whole : ∀ c ∈ path ++ tail, (c != '#') = true := by
    intro c found
    rw [bne_iff_ne]
    rcases List.mem_append.mp found with inPath | inTail
    · exact (plainPath c inPath).number
    · rcases behind with ⟨rfl, -⟩ | rfl
      · cases inTail
      · rcases List.mem_cons.mp inTail with rfl | inQuery
        · decide
        · exact (plainQuery c inQuery).number
  have sent : text.toList.takeWhile (· != '#') = path ++ tail := by
    rw [spelled]
    exact List.takeWhile_eq_self_iff.mpr whole
  have inside : ∀ c ∈ path, (c != '?') = true := fun c found =>
    bne_iff_ne.mpr (plainPath c found).question
  have front : (path ++ tail).takeWhile (· != '?') = path := by
    rw [List.takeWhile_append_of_pos inside]
    rcases behind with ⟨rfl, -⟩ | rfl <;> simp
  have back : ((path ++ tail).dropWhile (· != '?')).drop 1 = query := by
    rw [List.dropWhile_append_of_pos inside]
    rcases behind with ⟨rfl, rfl⟩ | rfl <;> simp
  have goodPath : path.any refusedInPath = false :=
    List.any_eq_false.mpr fun c found => by simp [(plainPath c found).path]
  have goodQuery : query.any refusedInQuery = false :=
    List.any_eq_false.mpr fun c found => by simp [(plainQuery c found).query]
  unfold ofText
  rw [if_neg (Nat.not_lt.mpr short)]
  simp [sent, front, back, goodPath, goodQuery]

end Target

/-!
### Paths
-/

/-- The path with these parts. -/
def joined (parts : List (List Char)) : List Char :=
  parts.flatMap fun part => '/' :: part

theorem splitChars_part {part : List Char} {parts : List (List Char)} (first : '/' ∉ part)
    (others : ∀ part ∈ parts, '/' ∉ part) :
    Text.splitChars '/' (part ++ joined parts) = part :: parts := by
  induction parts generalizing part with
  | nil => simpa [joined] using Text.splitChars_of_not_mem '/' part first
  | cons next rest ih =>
      have path : part ++ joined (next :: rest) = part ++ '/' :: (next ++ joined rest) := by
        simp [joined]
      rw [path, Text.splitChars_append '/' part _ first,
        ih (others next List.mem_cons_self) fun p found => others p (List.mem_cons_of_mem _ found)]

/-- A path is taken apart into its parts, behind an empty one. -/
theorem splitChars_joined {parts : List (List Char)} (plain : ∀ part ∈ parts, '/' ∉ part) :
    Text.splitChars '/' (joined parts) = [] :: parts :=
  splitChars_part (List.not_mem_nil) plain

/-!
### Queries
-/

namespace Text

theorem toNat_ofNat_octet (octet : UInt8) : (Char.ofNat octet.toNat).toNat = octet.toNat := by
  have bound := octet.toNat_lt
  have valid : octet.toNat.isValidChar := .inl (by omega)
  rw [Char.ofNat, dif_pos valid]
  rfl

/-- The numbers of the characters that the form encoding keeps. -/
def IsKept (n : Nat) : Prop :=
  (48 ≤ n ∧ n ≤ 57) ∨ (65 ≤ n ∧ n ≤ 90) ∨ (97 ≤ n ∧ n ≤ 122) ∨ n = 42 ∨ n = 45 ∨ n = 46 ∨ n = 95

theorem isKept_of_isFormPlain {octet : UInt8} (kept : isFormPlain octet) :
    IsKept octet.toNat := by
  rw [← toNat_ofNat_octet]
  simp only [isFormPlain] at kept
  generalize Char.ofNat octet.toNat = c at kept ⊢
  delta Char.isAlphanum Char.isAlpha Char.isUpper Char.isLower Char.isDigit at kept
  simp only [Bool.or_eq_true, Bool.and_eq_true, decide_eq_true_eq, beq_iff_eq, ge_iff_le,
    UInt32.le_iff_toNat_le] at kept
  change ((((((65 ≤ c.toNat ∧ c.toNat ≤ 90) ∨ (97 ≤ c.toNat ∧ c.toNat ≤ 122)) ∨
    (48 ≤ c.toNat ∧ c.toNat ≤ 57)) ∨ c = '*') ∨ c = '-') ∨ c = '.') ∨ c = '_' at kept
  unfold IsKept
  rcases kept with (((((upper | lower) | digit) | rfl) | rfl) | rfl) | rfl
  · exact .inr (.inl upper)
  · exact .inr (.inr (.inl lower))
  · exact .inl digit
  · decide
  · decide
  · decide
  · decide

/-- What holds of the two marks of the form encoding, of its digits and of all characters that it keeps
    holds of all that it writes for an octet. -/
theorem forall_mem_formEncodeOctet {P : Char → Prop} (plus : P '+') (percent : P '%')
    (digit : ∀ n < 16, P (upperHexDigit n)) (kept : ∀ c : Char, IsKept c.toNat → P c)
    (octet : UInt8) : ∀ c ∈ formEncodeOctet octet, P c := by
  have bound := octet.toNat_lt
  intro c written
  unfold formEncodeOctet at written
  split at written
  · cases List.mem_singleton.mp written
    exact plus
  · split at written
    · rename_i plain
      cases List.mem_singleton.mp written
      apply kept
      rw [toNat_ofNat_octet]
      exact isKept_of_isFormPlain plain
    · simp only [List.mem_cons, List.not_mem_nil, or_false] at written
      rcases written with rfl | rfl | rfl
      · exact percent
      · exact digit _ (by omega)
      · exact digit _ (by omega)

/-- The same of all that it writes for a text. -/
theorem forall_mem_formEncode {P : Char → Prop} (plus : P '+') (percent : P '%')
    (digit : ∀ n < 16, P (upperHexDigit n)) (kept : ∀ c : Char, IsKept c.toNat → P c)
    (s : String) : ∀ c ∈ (formEncode s).toList, P c := by
  intro c found
  simp only [formEncode, String.toList_ofList, List.mem_flatMap] at found
  obtain ⟨_, _, octet, _, written⟩ := found
  exact forall_mem_formEncodeOctet plus percent digit kept octet c written

theorem plain_formEncode (s : String) : ∀ c ∈ (formEncode s).toList, Target.Plain c := by
  refine forall_mem_formEncode (by decide) (by decide) (by decide) ?_ s
  intro c kept
  unfold IsKept at kept
  exact Target.plain_of_toNat (by omega) (by omega) (by omega) (by omega) (by omega) (by omega)

theorem length_formEncodeOctet (octet : UInt8) : (formEncodeOctet octet).length ≤ 3 := by
  unfold formEncodeOctet
  split
  · simp
  · split <;> simp

theorem length_flatMap_le {α β : Type} {f : α → List β} {bound : Nat}
    (short : ∀ x, (f x).length ≤ bound) (items : List α) :
    (items.flatMap f).length ≤ bound * items.length := by
  induction items with
  | nil => simp
  | cons item rest ih =>
      have first := short item
      rw [List.flatMap_cons, List.length_append, List.length_cons, Nat.mul_succ]
      omega

theorem length_formEncode (s : String) :
    (formEncode s).toList.length ≤ 12 * s.toList.length := by
  rw [formEncode, String.toList_ofList]
  refine length_flatMap_le ?_ _
  intro c
  have octets := length_flatMap_le length_formEncodeOctet (String.utf8EncodeChar c)
  have width : (String.utf8EncodeChar c).length ≤ 4 := by
    rw [String.length_utf8EncodeChar]
    exact Char.utf8Size_le_four c
  omega

end Text

end NginxFleet
