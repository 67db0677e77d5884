/-
Module: NginxFleet.Proofs.Naming.Dns
Layer: Proofs
Purpose: The names that a Kubernetes server accepts. A label is one part of letters, digits and dashes
  that begins and ends with a letter or digit; a subdomain is a sequence of such parts with dots
  between them. Instances are named by subdomains and live in namespaces that are named by labels.
Main exports: Dns.IsPart, Dns.IsLabel, Dns.IsSubdomain, Nginx.Admissible
-/
import NginxFleet.Nginx.Basic
import NginxFleet.Text.Split

namespace NginxFleet

namespace Dns

/-- A lower-case letter or a digit. -/
def isAlnum (c : Char) : Bool :=
  ('a' ≤ c && c ≤ 'z') || ('0' ≤ c && c ≤ '9')

/-- A character that may stand in a part of a name. -/
def isPartChar (c : Char) : Bool :=
  isAlnum c || c == '-'

/-- A part of a name: letters, digits and dashes, with a letter or digit at either end. -/
structure IsPart (part : List Char) : Prop where
  chars : ∀ c ∈ part, isPartChar c
  first : part.head?.any isAlnum
  last : part.getLast?.any isAlnum

instance (part : List Char) : Decidable (IsPart part) :=
  decidable_of_iff
    (part.all isPartChar ∧ part.head?.any isAlnum ∧ part.getLast?.any isAlnum)
    ⟨fun h => ⟨List.all_eq_true.mp h.1, h.2.1, h.2.2⟩,
      fun h => ⟨List.all_eq_true.mpr h.chars, h.first, h.last⟩⟩

/-- A name of one part. -/
structure IsLabel (name : String) : Prop where
  part : IsPart name.toList
  length : name.length ≤ 63

/-- A name of parts with dots between them. -/
structure IsSubdomain (name : String) : Prop where
  parts : ∀ part ∈ Text.splitChars '.' name.toList, IsPart part
  length : name.length ≤ 253

theorem IsPart.ne_nil {part : List Char} (valid : IsPart part) : part ≠ [] := by
  rintro rfl
  exact absurd valid.first (by simp)

/-- A character that may stand in a name. -/
def isNameChar (c : Char) : Bool :=
  isPartChar c || c == '.'

theorem IsLabel.isNameChar {name : String} (valid : IsLabel name) :
    ∀ c ∈ name.toList, isNameChar c := by
  intro c found
  simp [Dns.isNameChar, valid.part.chars c found]

theorem mem_splitChars (mark : Char) {c : Char} {chars : List Char} (found : c ∈ chars) :
    c = mark ∨ ∃ part ∈ Text.splitChars mark chars, c ∈ part := by
  induction chars with
  | nil => cases found
  | cons head rest ih =>
      simp only [Text.splitChars]
      cases parts : Text.splitChars mark rest with
      | nil => exact absurd parts (Text.splitChars_ne_nil mark rest)
      | cons part others =>
          rw [parts] at ih
          by_cases isMark : head = mark
          · rcases List.mem_cons.mp found with rfl | later
            · exact .inl isMark
            · rcases ih later with same | ⟨within, member, inside⟩
              · exact .inl same
              · exact .inr ⟨within, by simp [isMark, List.mem_cons.mp member], inside⟩
          · rcases List.mem_cons.mp found with rfl | later
            · exact .inr ⟨c :: part, by simp [isMark], List.mem_cons_self⟩
            · rcases ih later with same | ⟨within, member, inside⟩
              · exact .inl same
              · rcases List.mem_cons.mp member with rfl | behind
                · exact .inr ⟨head :: within, by simp [isMark], List.mem_cons_of_mem _ inside⟩
                · exact .inr ⟨within, by simp [isMark, behind], inside⟩

theorem IsSubdomain.isNameChar {name : String} (valid : IsSubdomain name) :
    ∀ c ∈ name.toList, isNameChar c := by
  intro c found
  rcases mem_splitChars '.' found with rfl | ⟨part, member, inside⟩
  · rfl
  · simp [Dns.isNameChar, (valid.parts part member).chars c inside]

theorem IsSubdomain.ne_empty {name : String} (valid : IsSubdomain name) : name ≠ "" := by
  rintro rfl
  exact (valid.parts [] (by simp [Text.splitChars])).ne_nil rfl

/-- What a name may hold, by number. -/
theorem toNat_of_isNameChar {c : Char} (valid : isNameChar c) :
    (97 ≤ c.toNat ∧ c.toNat ≤ 122) ∨ (48 ≤ c.toNat ∧ c.toNat ≤ 57) ∨ c.toNat = 45 ∨
      c.toNat = 46 := by
  simp only [isNameChar, isPartChar, isAlnum, Bool.or_eq_true, Bool.and_eq_true,
    decide_eq_true_eq, beq_iff_eq, Char.le_def, UInt32.le_iff_toNat_le] at valid
  change (((97 ≤ c.toNat ∧ c.toNat ≤ 122) ∨ (48 ≤ c.toNat ∧ c.toNat ≤ 57)) ∨ c = '-') ∨
    c = '.' at valid
  rcases valid with ((letter | digit) | rfl) | rfl
  · exact .inl letter
  · exact .inr (.inl digit)
  · exact .inr (.inr (.inl rfl))
  · exact .inr (.inr (.inr rfl))

end Dns

/-- An instance with a name and a namespace that the server accepts. -/
structure Nginx.Admissible (nginx : Nginx) : Prop where
  name : ∃ name, nginx.metadata.name = some name ∧ Dns.IsSubdomain name
  namespaceName : ∃ namespaceName, nginx.metadata.namespaceName = some namespaceName ∧
    Dns.IsLabel namespaceName

namespace Nginx.Admissible

variable {nginx : Nginx}

theorem isSubdomain_name (admissible : nginx.Admissible) : Dns.IsSubdomain nginx.name := by
  obtain ⟨name, given, valid⟩ := admissible.name
  simpa [Nginx.name, ObjectMeta.displayName, given] using valid

theorem isLabel_namespaceName (admissible : nginx.Admissible) :
    Dns.IsLabel nginx.namespaceName := by
  obtain ⟨namespaceName, given, valid⟩ := admissible.namespaceName
  simpa [Nginx.namespaceName, given] using valid

end Nginx.Admissible

end NginxFleet
