/-
Module: NginxFleet.Proofs.Text.Utf8
Layer: Proofs
Purpose: A text is read in its own octets, and in no others. The reader takes the octets of one
  character after the other: the first one says how many are owed, and the least and the greatest octet
  that it allows to come next shut out just those that no character begins with.
Main exports: decodeFrom_utf8EncodeChar, decodeFrom_encoded, decodeUtf8_encoded, encoded_of_decodeFrom,
  decodeUtf8_eq_ok_iff
-/
import NginxFleet.Text.Utf8

namespace NginxFleet.Text

/-!
### The steps of the reader
-/

theorem decodeFrom_complete {index octet : Nat} {c : Char} (small : octet < 256)
    (first : firstOctet index octet = .complete c) (rest : List UInt8) :
    decodeFrom index none (UInt8.ofNat octet :: rest) =
      (decodeFrom (index + 1) none rest).map (c :: ·) := by
  simp only [decodeFrom, UInt8.toNat_ofNat_of_lt' small, first]

theorem decodeFrom_opens {index octet : Nat} {pending : PartialChar} (small : octet < 256)
    (first : firstOctet index octet = .opens pending) (rest : List UInt8) :
    decodeFrom index none (UInt8.ofNat octet :: rest) =
      decodeFrom (index + 1) (some pending) rest := by
  simp only [decodeFrom, UInt8.toNat_ofNat_of_lt' small, first]

/-- The last octet of a character. -/
theorem decodeFrom_last {index bits : Nat} {pending : PartialChar} (small : bits < 64)
    (allowed : pending.low ≤ bits + 128 ∧ bits + 128 ≤ pending.high) (owed : pending.owed = 1)
    (rest : List UInt8) :
    decodeFrom index (some pending) (UInt8.ofNat (bits + 128) :: rest) =
      (decodeFrom (index + 1) none rest).map (Char.ofNat (pending.bits * 64 + bits) :: ·) := by
  have value : (UInt8.ofNat (bits + 128)).toNat = bits + 128 :=
    UInt8.toNat_ofNat_of_lt' (by show bits + 128 < 256; omega)
  simp only [decodeFrom, value, allowed, and_self, if_true, owed, Nat.add_sub_cancel]

/-- An octet of a character before the last one. -/
theorem decodeFrom_middle {index bits owed : Nat} {pending : PartialChar} (small : bits < 64)
    (allowed : pending.low ≤ bits + 128 ∧ bits + 128 ≤ pending.high)
    (more : pending.owed = owed + 2) (rest : List UInt8) :
    decodeFrom index (some pending) (UInt8.ofNat (bits + 128) :: rest) =
      decodeFrom (index + 1) (some ⟨pending.start, pending.seen + 1, owed + 1, 0x80, 0xBF,
        pending.bits * 64 + bits⟩) rest := by
  have value : (UInt8.ofNat (bits + 128)).toNat = bits + 128 :=
    UInt8.toNat_ofNat_of_lt' (by show bits + 128 < 256; omega)
  have open_ : ¬ pending.owed = 1 := by omega
  simp only [decodeFrom, value, allowed, and_self, if_true, open_, if_false, Nat.add_sub_cancel]
  rw [more]
  rfl

/-!
### The first octet of a character

The octets that may come next depend on the first one where a longer spelling of a smaller number, half
of a pair or a number that is none of a character would begin in the same way.
-/

/-- A first octet announces a character with these leading bits, and allows an octet to come next. -/
structure FirstOctet.Announces (first : FirstOctet) (owed bits next : Nat)
    (pending : PartialChar) : Prop where
  opens : first = .opens pending
  owed : pending.owed = owed
  bits : pending.bits = bits
  allowed : pending.low ≤ next ∧ next ≤ pending.high

theorem announces_two (index bits next : Nat) (low : 2 ≤ bits) (high : bits < 32)
    (tail : 128 ≤ next ∧ next < 192) :
    ∃ pending, (firstOctet index (bits + 192)).Announces 1 bits next pending := by
  unfold firstOctet
  rw [if_neg (by omega), if_pos (by omega), Nat.add_sub_cancel]
  exact ⟨_, rfl, rfl, rfl, by constructor <;> simp only <;> omega⟩

theorem announces_three (index bits next : Nat) (high : bits < 16)
    (tail : 128 ≤ next ∧ next < 192) (shortest : bits = 0 → 160 ≤ next)
    (whole : bits = 13 → next < 160) :
    ∃ pending, (firstOctet index (bits + 224)).Announces 2 bits next pending := by
  unfold firstOctet
  rw [if_neg (by omega), if_neg (by omega)]
  by_cases zero : bits = 0
  · subst zero
    exact ⟨_, rfl, rfl, rfl, by constructor <;> simp only <;> omega⟩
  · by_cases halves : bits = 13
    · subst halves
      exact ⟨_, rfl, rfl, rfl, by constructor <;> simp only <;> omega⟩
    · rw [if_neg (by omega), if_neg (by omega), if_pos (by omega), Nat.add_sub_cancel]
      exact ⟨_, rfl, rfl, rfl, by constructor <;> simp only <;> omega⟩

theorem announces_four (index bits next : Nat) (high : bits ≤ 4)
    (tail : 128 ≤ next ∧ next < 192) (shortest : bits = 0 → 144 ≤ next)
    (greatest : bits = 4 → next < 144) :
    ∃ pending, (firstOctet index (bits + 240)).Announces 3 bits next pending := by
  unfold firstOctet
  rw [if_neg (by omega), if_neg (by omega), if_neg (by omega), if_neg (by omega),
    if_neg (by omega)]
  by_cases zero : bits = 0
  · subst zero
    exact ⟨_, rfl, rfl, rfl, by constructor <;> simp only <;> omega⟩
  · by_cases last : bits = 4
    · subst last
      exact ⟨_, rfl, rfl, rfl, by constructor <;> simp only <;> omega⟩
    · rw [if_neg (by omega), if_pos (by omega), Nat.add_sub_cancel]
      exact ⟨_, rfl, rfl, rfl, by constructor <;> simp only <;> omega⟩

/-!
### Characters and texts
-/

/-- The octets of a character are read as the character. -/
theorem decodeFrom_utf8EncodeChar (index : Nat) (c : Char) (rest : List UInt8) :
    ∃ next, decodeFrom index none (String.utf8EncodeChar c ++ rest) =
      (decodeFrom next none rest).map (c :: ·) := by
  have valid : c.toNat < 0xD800 ∨ 0xDFFF < c.toNat ∧ c.toNat < 0x110000 := c.valid
  have same : ∀ n, n = c.toNat → Char.ofNat n = c := by
    rintro n rfl
    exact c.ofNat_toNat
  unfold String.utf8EncodeChar
  rw [show c.val.toNat = c.toNat from rfl]
  generalize c.toNat = v at valid same ⊢
  by_cases one : v ≤ 127
  · have first : firstOctet index v = .complete c := by
      rw [firstOctet, if_pos (by omega), same v rfl]
    simp only [one, if_true, List.cons_append, List.nil_append]
    exact ⟨_, decodeFrom_complete (by omega) first rest⟩
  by_cases two : v ≤ 2047
  · obtain ⟨pending, opens, owed, bits, allowed⟩ :=
      announces_two index (v / 64 % 32) (v % 64 + 128) (by omega) (by omega) (by omega)
    simp only [one, two, if_true, if_false, List.cons_append, List.nil_append]
    rw [decodeFrom_opens (by omega) opens, decodeFrom_last (by omega) allowed owed, bits,
      same _ (by omega)]
    exact ⟨_, rfl⟩
  by_cases three : v ≤ 65535
  · obtain ⟨pending, opens, owed, bits, allowed⟩ :=
      announces_three index (v / 4096 % 16) (v / 64 % 64 + 128) (by omega) (by omega) (by omega)
        (by omega)
    simp only [one, two, three, if_true, if_false, List.cons_append, List.nil_append]
    rw [decodeFrom_opens (by omega) opens, decodeFrom_middle (by omega) allowed owed,
      decodeFrom_last (by omega) (by constructor <;> simp only <;> omega) rfl]
    simp only [bits]
    rw [same _ (by omega)]
    exact ⟨_, rfl⟩
  · obtain ⟨pending, opens, owed, bits, allowed⟩ :=
      announces_four index (v / 262144 % 8) (v / 4096 % 64 + 128) (by omega) (by omega)
        (by omega) (by omega)
    simp only [one, two, three, if_false, List.cons_append, List.nil_append]
    rw [decodeFrom_opens (by omega) opens, decodeFrom_middle (by omega) allowed owed,
      decodeFrom_middle (by omega) (by constructor <;> simp only <;> omega) rfl,
      decodeFrom_last (by omega) (by constructor <;> simp only <;> omega) rfl]
    simp only [bits]
    rw [same _ (by omega)]
    exact ⟨_, rfl⟩

theorem decodeFrom_encoded (index : Nat) (chars : List Char) :
    decodeFrom index none (chars.flatMap String.utf8EncodeChar) = .ok chars := by
  induction chars generalizing index with
  | nil => rfl
  | cons c rest ih =>
      obtain ⟨next, step⟩ := decodeFrom_utf8EncodeChar index c
        (rest.flatMap String.utf8EncodeChar)
      rw [List.flatMap_cons, step, ih]
      rfl

/-- The octets of a text are read as the text. -/
theorem decodeUtf8_encoded (text : String) :
    decodeUtf8 (text.toList.flatMap String.utf8EncodeChar) = .ok text := by
  rw [decodeUtf8, decodeFrom_encoded]
  exact congrArg Except.ok String.ofList_toList

/-!
### What can be read

Nothing but the octets of a text is read as the text. Inside a character, every way of coming to its end
makes the octets since its beginning those of the character that is read there.
-/

/-- However a character with so many octets owed is completed, it is written as the octets in front and
    those that complete it. -/
def Completes : (owed low high bits : Nat) → (front : List UInt8) → Prop
  | 0, _, _, bits, front => String.utf8EncodeChar (Char.ofNat bits) = front
  | owed + 1, low, high, bits, front =>
    ∀ octet : UInt8, low ≤ octet.toNat → octet.toNat ≤ high →
      Completes owed 0x80 0xBF (bits * 64 + (octet.toNat - 0x80)) (front ++ [octet])

/-- Where the reader stands after the octets since the last complete character. -/
def StandsBehind (front : List UInt8) : Option PartialChar → Prop
  | none => front = []
  | some pending =>
    0 < pending.owed ∧ Completes pending.owed pending.low pending.high pending.bits front

theorem standsBehind_nothing : StandsBehind [] none := rfl

theorem standsBehind_inside {front : List UInt8} {start seen owed low high bits : Nat}
    (completes : Completes (owed + 1) low high bits front) :
    StandsBehind front (some ⟨start, seen, owed + 1, low, high, bits⟩) :=
  ⟨Nat.succ_pos owed, completes⟩

theorem toNat_val_ofNat {v : Nat} (valid : v.isValidChar) : (Char.ofNat v).val.toNat = v := by
  rw [Char.ofNat, dif_pos valid]
  rfl

theorem ofNat_eq_octet {n : Nat} (octet : UInt8) (same : n = octet.toNat) :
    UInt8.ofNat n = octet := by
  rw [same, UInt8.ofNat_toNat]

theorem completes_two {a : UInt8} (first : 0xC2 ≤ a.toNat ∧ a.toNat ≤ 0xDF) :
    Completes 1 0x80 0xBF (a.toNat - 0xC0) [a] := by
  intro b _ _
  unfold Completes String.utf8EncodeChar
  rw [toNat_val_ofNat (.inl (by omega))]
  dsimp only
  rw [if_neg (by omega), if_pos (by omega), ofNat_eq_octet a (by omega),
    ofNat_eq_octet b (by omega)]
  rfl

theorem completes_three {a : UInt8} {low high bits : Nat}
    (first : 0xE0 ≤ a.toNat ∧ a.toNat ≤ 0xEF) (value : bits = a.toNat - 0xE0)
    (tail : 0x80 ≤ low ∧ high ≤ 0xBF) (shortest : bits = 0 → 0xA0 ≤ low)
    (whole : bits = 0xD → high ≤ 0x9F) : Completes 2 low high bits [a] := by
  intro b _ _ c _ _
  unfold Completes String.utf8EncodeChar
  rw [toNat_val_ofNat (by unfold Nat.isValidChar; omega)]
  dsimp only
  rw [if_neg (by omega), if_neg (by omega), if_pos (by omega), ofNat_eq_octet a (by omega),
    ofNat_eq_octet b (by omega), ofNat_eq_octet c (by omega)]
  rfl

theorem completes_four {a : UInt8} {low high bits : Nat}
    (first : 0xF0 ≤ a.toNat ∧ a.toNat ≤ 0xF4) (value : bits = a.toNat - 0xF0)
    (tail : 0x80 ≤ low ∧ high ≤ 0xBF) (shortest : bits = 0 → 0x90 ≤ low)
    (greatest : bits = 4 → high ≤ 0x8F) : Completes 3 low high bits [a] := by
  intro b _ _ c _ _ d _ _
  unfold Completes String.utf8EncodeChar
  rw [toNat_val_ofNat (by unfold Nat.isValidChar; omega)]
  dsimp only
  rw [if_neg (by omega), if_neg (by omega), if_neg (by omega), ofNat_eq_octet a (by omega),
    ofNat_eq_octet b (by omega), ofNat_eq_octet c (by omega), ofNat_eq_octet d (by omega)]
  rfl

theorem utf8EncodeChar_of_complete {index : Nat} {octet : UInt8} {c : Char}
    (first : firstOctet index octet.toNat = .complete c) : String.utf8EncodeChar c = [octet] := by
  unfold firstOctet at first
  split at first
  · cases first
    unfold String.utf8EncodeChar
    rw [toNat_val_ofNat (.inl (by omega))]
    dsimp only
    rw [if_pos (by omega), UInt8.ofNat_toNat]
  · repeat' split at first
    all_goals cases first

theorem standsBehind_of_opens {index : Nat} {octet : UInt8} {pending : PartialChar}
    (first : firstOctet index octet.toNat = .opens pending) :
    StandsBehind [octet] (some pending) := by
  unfold firstOctet at first
  split at first
  · cases first
  split at first
  · cases first
    exact standsBehind_inside (completes_two (by assumption))
  -- The first octets of three are E0, ED and the others, those of four F0, F4 and between.
  iterate 3
    split at first
    · cases first
      apply standsBehind_inside
      apply completes_three <;> omega
  iterate 3
    split at first
    · cases first
      apply standsBehind_inside
      apply completes_four <;> omega
  cases first

theorem eq_ok_of_map_cons {c : Char} {result : Except Utf8Fault (List Char)} {chars : List Char}
    (read : result.map (c :: ·) = .ok chars) : ∃ later, result = .ok later ∧ chars = c :: later := by
  cases result with
  | error fault => cases read
  | ok later => exact ⟨later, rfl, (Except.ok.inj read).symm⟩

/-- The octets that are read, with those of an open character in front, are the octets of the
    characters. -/
theorem encoded_of_decodeFrom {octets front : List UInt8} {index : Nat} {pending : Option PartialChar}
    {chars : List Char} (standing : StandsBehind front pending)
    (read : decodeFrom index pending octets = .ok chars) :
    front ++ octets = chars.flatMap String.utf8EncodeChar := by
  induction octets generalizing front index pending chars with
  | nil =>
      cases pending with
      | none =>
          cases standing
          cases read
          rfl
      | some pending => cases read
  | cons octet rest ih =>
      cases pending with
      | none =>
          cases standing
          simp only [decodeFrom] at read
          cases first : firstOctet index octet.toNat with
          | complete c =>
              rw [first] at read
              obtain ⟨later, others, rfl⟩ := eq_ok_of_map_cons read
              rw [List.flatMap_cons, utf8EncodeChar_of_complete first,
                ← ih standsBehind_nothing others]
              rfl
          | opens pending =>
              rw [first] at read
              exact ih (standsBehind_of_opens first) read
          | refused =>
              rw [first] at read
              cases read
      | some pending =>
          obtain ⟨start, seen, owed, low, high, bits⟩ := pending
          simp only [decodeFrom] at read
          split at read
          · rename_i allowed
            rw [List.append_cons]
            match owed, standing with
            | 1, standing =>
                obtain ⟨later, others, rfl⟩ := eq_ok_of_map_cons read
                have written := standing.2 octet allowed.1 allowed.2
                rw [List.flatMap_cons, ← ih standsBehind_nothing others]
                exact congrArg (· ++ rest) written.symm
            | owed + 2, standing =>
                exact ih (standsBehind_inside (standing.2 octet allowed.1 allowed.2)) read
          · cases read

/-- Octets are read as a text exactly if they are those of the text. -/
theorem decodeUtf8_eq_ok_iff {octets : List UInt8} {text : String} :
    decodeUtf8 octets = .ok text ↔ octets = text.toList.flatMap String.utf8EncodeChar := by
  constructor
  · intro read
    unfold decodeUtf8 at read
    cases chars : decodeFrom 0 none octets with
    | error fault =>
        rw [chars] at read
        cases read
    | ok found =>
        rw [chars] at read
        cases read
        rw [String.toList_ofList, ← encoded_of_decodeFrom standsBehind_nothing chars]
        rfl
  · rintro rfl
    exact decodeUtf8_encoded text

end NginxFleet.Text
