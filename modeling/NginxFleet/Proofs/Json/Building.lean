/-
Module: NginxFleet.Proofs.Json.Building
Layer: Proofs
Purpose: The tokens of a document build the document. What is open around it stays as it is until the
  document is complete, and then takes it as its next part; so a document that is not nested too
  deeply, and of which every part stands for a value, is read back from its text.
Main exports: Json.Builds, Json.builds_array, Json.builds_object, Json.builds_tokens,
  Json.parseMarked?_text
-/
import NginxFleet.Json.Parser
import NginxFleet.Proofs.Json.Lexing

namespace NginxFleet.Json

open Builder

/-- Tokens build a document, whatever is open around it. -/
def Builds (room : Nat) (tokens : List Token) (value : Json) : Prop :=
  ∀ frames : List Frame, frames.length + room ≤ nestingLimit →
    tokens.foldlM step ⟨frames, .value⟩ = some (accept frames value)

theorem builds_atom {room : Nat} (value : Json) : Builds room [.atom value] value :=
  fun _ _ => rfl

theorem builds_string {room : Nat} (text : String) : Builds room [.string (some text)] (.str text) :=
  fun _ _ => rfl

theorem nested_of_lt {frames : List Frame} {value : Json} (few : frames.length < nestingLimit) :
    nested frames value = value := by
  unfold nested
  rw [List.drop_of_length_le (by omega)]
  rfl

/-!
### Arrays
-/

section Arrays

variable {room : Nat} {frames : List Frame}

/-- A first item is built as any other: it does not begin with the end of the array. -/
theorem Builds.firstItem {tokens more : List Token} {value : Json}
    (builds : Builds room tokens value) (few : frames.length + room < nestingLimit) :
    (tokens ++ more).foldlM step ⟨frames, .firstItem⟩ =
      (tokens ++ more).foldlM step ⟨.array [] :: frames, .value⟩ := by
  have built := builds (.array [] :: frames) (by rw [List.length_cons]; omega)
  cases tokens with
  | nil => cases built
  | cons token rest =>
      cases token with
      | closeArray => cases built
      | _ => rfl

/-- The items that are left are built up to the end of the array. -/
theorem foldlM_items {lists : List (List Token)} {values : List Json}
    (each : List.Forall₂ (Builds room) lists values) (some_ : lists ≠ [])
    (few : frames.length + room < nestingLimit) (before : List Json) :
    ([Token.comma].intercalate lists ++ [Token.closeArray]).foldlM step
        ⟨.array before :: frames, .value⟩ =
      some (accept frames (.arr (before.reverse ++ values))) := by
  induction each generalizing before with
  | nil => exact absurd rfl some_
  | @cons tokens value lists values builds later ih =>
      have built := builds (.array before :: frames) (by rw [List.length_cons]; omega)
      have taken : accept (.array before :: frames) value = ⟨frames, .moreItems (value :: before)⟩ :=
        rfl
      cases later with
      | nil =>
          rw [List.intercalate_singleton, List.foldlM_append, built]
          simp [taken, step, closeArray, nested_of_lt (by omega : frames.length < nestingLimit)]
      | cons second others =>
          have rest := ih (List.cons_ne_nil _ _) (value :: before)
          rw [List.intercalate_cons_cons, List.append_assoc, List.append_assoc, List.foldlM_append,
            built]
          simpa [taken, step] using rest

theorem builds_array {lists : List (List Token)} {values : List Json}
    (each : List.Forall₂ (Builds room) lists values) :
    Builds (room + 1) (.openArray :: ([Token.comma].intercalate lists ++ [Token.closeArray]))
      (.arr values) := by
  intro frames few
  have opened : step ⟨frames, .value⟩ .openArray = some ⟨frames, .firstItem⟩ := rfl
  rw [List.foldlM_cons, opened]
  cases each with
  | nil => simp [step, closeArray, nested_of_lt (by omega : frames.length < nestingLimit)]
  | @cons tokens value lists values builds later =>
      have all := foldlM_items (.cons builds later) (List.cons_ne_nil _ _)
        (by omega : frames.length + room < nestingLimit) []
      obtain ⟨more, split⟩ : ∃ more, [Token.comma].intercalate (tokens :: lists) ++ [Token.closeArray] =
          tokens ++ more := by
        cases lists with
        | nil => exact ⟨_, by rw [List.intercalate_singleton]⟩
        | cons second others =>
            exact ⟨_, by rw [List.intercalate_cons_cons, List.append_assoc, List.append_assoc]⟩
      rw [split] at all ⊢
      exact (builds.firstItem (by omega)).trans all

end Arrays

/-!
### Objects
-/

section Objects

variable {room : Nat} {frames : List Frame}

/-- Tokens are a key, a colon and the tokens of the value for the key. -/
def BuildsMember (room : Nat) (tokens : List Token) (member : String × Json) : Prop :=
  ∃ later, tokens = .string (some member.1) :: .colon :: later ∧ Builds room later member.2

/-- The members that are left are built up to the end of the object. -/
theorem foldlM_members {lists : List (List Token)} {members : List (String × Json)}
    (each : List.Forall₂ (BuildsMember room) lists members) (some_ : lists ≠ [])
    (few : frames.length + room < nestingLimit) (before : List (String × Json)) :
    ([Token.comma].intercalate lists ++ [Token.closeObject]).foldlM step
        ⟨frames, .nextKey (some before)⟩ =
      some (accept frames (.obj (before.reverse ++ members))) := by
  induction each generalizing before with
  | nil => exact absurd rfl some_
  | @cons tokens member lists members begins later ih =>
      obtain ⟨key, value⟩ := member
      obtain ⟨tokens, rfl, builds⟩ := begins
      have built := builds (.object (some before) (some key) :: frames)
        (by rw [List.length_cons]; omega)
      have taken : accept (.object (some before) (some key) :: frames) value =
        ⟨frames, .moreMembers (some ((key, value) :: before))⟩ := rfl
      have keyed : step ⟨frames, .nextKey (some before)⟩ (.string (some key)) =
        some ⟨.object (some before) (some key) :: frames, .colon⟩ := rfl
      cases later with
      | nil =>
          rw [List.intercalate_singleton, List.cons_append, List.cons_append, List.foldlM_cons, keyed]
          simp [built, taken, step, closeObject,
            nested_of_lt (by omega : frames.length < nestingLimit)]
      | cons second others =>
          have rest := ih (List.cons_ne_nil _ _) ((key, value) :: before)
          rw [List.intercalate_cons_cons, List.append_assoc, List.append_assoc, List.cons_append,
            List.cons_append, List.foldlM_cons, keyed]
          simpa [built, taken, step] using rest

theorem builds_object {lists : List (List Token)} {members : List (String × Json)}
    (each : List.Forall₂ (BuildsMember room) lists members) :
    Builds (room + 1) (.openObject :: ([Token.comma].intercalate lists ++ [Token.closeObject]))
      (.obj members) := by
  intro frames few
  have opened : step ⟨frames, .value⟩ .openObject = some ⟨frames, .firstKey⟩ := rfl
  rw [List.foldlM_cons, opened]
  cases each with
  | nil => simp [step, closeObject, nested_of_lt (by omega : frames.length < nestingLimit)]
  | @cons tokens member lists members begins later =>
      have all := foldlM_members (.cons begins later) (List.cons_ne_nil _ _)
        (by omega : frames.length + room < nestingLimit) []
      obtain ⟨tokens, rfl, builds⟩ := begins
      -- A first key is read as any other key.
      cases lists with
      | nil => exact all
      | cons second others => exact all

end Objects

/-!
### Documents
-/

mutual

/-- The tokens of a document build what is received for it. -/
theorem builds_tokens : {room : Nat} → {document : Json} → Printable room document →
    Builds room document.tokens document.received
  | _, .null, _ | _, .bool _, _ | _, .int _, _ | _, .float _, _ => builds_atom _
  | _, .str text, _ => builds_string text
  | _ + 1, .arr _, printable =>
      builds_array (builds_itemTokens (printable_arr_iff.mp printable))
  | _ + 1, .obj _, printable =>
      builds_object (builds_memberTokens (printable_obj_iff.mp printable))
  | 0, .arr _, printable | 0, .obj _, printable => absurd printable.fits.1 (Nat.lt_irrefl 0)
  | _, .unreadable, printable => nomatch printable.readable

theorem builds_itemTokens : {room : Nat} → {items : List Json} →
    (∀ item ∈ items, Printable room item) →
    List.Forall₂ (Builds room) (itemTokens items) (itemsReceived items)
  | _, [], _ => .nil
  | _, _ :: _, printable =>
      .cons (builds_tokens (printable _ List.mem_cons_self))
        (builds_itemTokens fun item among => printable item (List.mem_cons_of_mem _ among))

theorem builds_memberTokens : {room : Nat} → {members : List (String × Json)} →
    (∀ member ∈ members, Printable room member.2) →
    List.Forall₂ (BuildsMember room) (memberTokens members) (membersReceived members)
  | _, [], _ => .nil
  | _, (_, _) :: _, printable =>
      .cons ⟨_, rfl, builds_tokens (printable _ List.mem_cons_self)⟩
        (builds_memberTokens fun member among => printable member (List.mem_cons_of_mem _ among))

end

/-- A document that can be written is received from its text. -/
theorem parseMarked?_text {document : Json} (printable : Printable nestingLimit document) :
    parseMarked? document.text = some document.received := by
  have built := builds_tokens printable [] (Nat.le_of_eq (Nat.zero_add _))
  rw [parseMarked?, ofText?_text printable.fits]
  simp [built, accept]

end NginxFleet.Json
