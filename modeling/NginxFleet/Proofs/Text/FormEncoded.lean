/-
Module: NginxFleet.Proofs.Text.FormEncoded
Layer: Proofs
Purpose: The form encoding can be undone, whatever the text: each octet is read in what was written for
  it, and the octets of a text are read as the text. What is written holds none of the marks by which a
  query is taken apart, so a value stays in one piece there.
Main exports: formDecode_formEncode, separators_not_mem_formEncode
-/
import NginxFleet.Proofs.Naming.Target
import NginxFleet.Proofs.Text.Utf8

namespace NginxFleet.Text

/-!
### One octet
-/

theorem hexDigit?_upperHexDigit : ∀ n < 16, hexDigit? (upperHexDigit n) = some n := by decide

theorem utf8EncodeChar_ofNat_octet {octet : UInt8} (ascii : octet.toNat < 128) :
    String.utf8EncodeChar (Char.ofNat octet.toNat) = [octet] := by
  have value : (Char.ofNat octet.toNat).val.toNat = octet.toNat := toNat_ofNat_octet octet
  unfold String.utf8EncodeChar
  simp only [value]
  rw [if_pos (by omega), UInt8.ofNat_toNat]

/-- A character that is neither mark of the encoding is read as itself. -/
theorem formDecodeOctets_cons {c : Char} (percent : c ≠ '%') (plus : c ≠ '+') (rest : List Char) :
    formDecodeOctets (c :: rest) = String.utf8EncodeChar c ++ formDecodeOctets rest := by
  rw [formDecodeOctets.eq_def]
  split
  · rename_i nothing
    cases nothing
  · rename_i escaped
    exact absurd (List.cons.inj escaped).1 percent
  · rename_i same
    obtain ⟨rfl, rfl⟩ := List.cons.inj same
    rw [if_neg plus]

/-- An octet is read in what was written for it. -/
theorem formDecodeOctets_formEncodeOctet (octet : UInt8) (rest : List Char) :
    formDecodeOctets (formEncodeOctet octet ++ rest) = octet :: formDecodeOctets rest := by
  have bound := octet.toNat_lt
  unfold formEncodeOctet
  by_cases space : octet = 0x20
  · rw [if_pos space, space]
    rfl
  rw [if_neg space]
  by_cases kept : isFormPlain octet
  · rw [if_pos kept]
    have number := isKept_of_isFormPlain kept
    unfold IsKept at number
    have apart : ∀ d : Char, octet.toNat ≠ d.toNat → Char.ofNat octet.toNat ≠ d := by
      rintro d different same
      rw [← same, toNat_ofNat_octet] at different
      exact different rfl
    have percent := apart '%' (by show octet.toNat ≠ 37; omega)
    have plus := apart '+' (by show octet.toNat ≠ 43; omega)
    rw [List.singleton_append, formDecodeOctets_cons percent plus,
      utf8EncodeChar_ofNat_octet (by omega)]
    rfl
  · rw [if_neg kept]
    simp only [List.cons_append, List.nil_append, formDecodeOctets]
    rw [hexDigit?_upperHexDigit _ (by omega), hexDigit?_upperHexDigit _ (by omega)]
    have whole : octet.toNat / 16 * 16 + octet.toNat % 16 = octet.toNat := by omega
    simp only [whole, UInt8.ofNat_toNat]

/-!
### Texts
-/

theorem formDecodeOctets_flatMap (octets : List UInt8) :
    formDecodeOctets (octets.flatMap formEncodeOctet) = octets := by
  induction octets with
  | nil => rfl
  | cons octet rest ih => rw [List.flatMap_cons, formDecodeOctets_formEncodeOctet, ih]

/-- A text is read in its form encoding. -/
theorem formDecode_formEncode (text : String) : formDecode (formEncode text) = some text := by
  have octets : formDecodeOctets (formEncode text).toList =
      text.toList.flatMap String.utf8EncodeChar := by
    rw [formEncode, String.toList_ofList, ← List.flatMap_assoc]
    exact formDecodeOctets_flatMap _
  rw [formDecode, octets, decodeUtf8_encoded]
  rfl

/-- What is written for a text holds no separator of a query. -/
theorem separators_not_mem_formEncode (text : String) :
    '&' ∉ (formEncode text).toList ∧ '=' ∉ (formEncode text).toList := by
  have written : ∀ c ∈ (formEncode text).toList, c ≠ '&' ∧ c ≠ '=' := by
    refine forall_mem_formEncode (by decide) (by decide) (by decide) ?_ text
    intro c kept
    unfold IsKept at kept
    constructor
    · rintro rfl
      exact absurd kept (by decide)
    · rintro rfl
      exact absurd kept (by decide)
  exact ⟨fun found => (written _ found).1 rfl, fun found => (written _ found).2 rfl⟩

end NginxFleet.Text
