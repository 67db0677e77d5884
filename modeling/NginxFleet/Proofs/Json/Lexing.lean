/-
Module: NginxFleet.Proofs.Json.Lexing
Layer: Proofs
Purpose: The text of a document is read as its tokens. Brackets, marks and strings end by themselves;
  a number or a word ends where a mark or the text does, and nothing else ever follows one. In a
  string every character is read back from its escaped form.
Main exports: Json.tokens, Json.Lexes, Json.Lexes.mark, Json.lexes_string, Json.lexes_text,
  Json.ofText?_text
-/
import NginxFleet.Json.Received
import NginxFleet.Proofs.Json.Fits
import NginxFleet.Proofs.Number.Reading

namespace NginxFleet.Json

/-!
### The tokens of a document
-/

mutual

/-- The tokens of a document, with its numbers as they are read. -/
def tokens : Json → List Token
  | .null | .unreadable => [.atom .null]
  | .bool value => [.atom (.bool value)]
  | .int value => [.atom (.int value)]
  | .float value => [.atom (.float value.received)]
  | .str value => [.string (some value)]
  | .arr items => .openArray :: ([.comma].intercalate (itemTokens items) ++ [.closeArray])
  | .obj members => .openObject :: ([.comma].intercalate (memberTokens members) ++ [.closeObject])

/-- The tokens of each item. -/
def itemTokens : List Json → List (List Token)
  | [] => []
  | item :: rest => tokens item :: itemTokens rest

/-- The tokens of each member. -/
def memberTokens : List (String × Json) → List (List Token)
  | [] => []
  | (key, value) :: rest => (.string (some key) :: .colon :: tokens value) :: memberTokens rest

end

/-!
### Characters and tokens
-/

/-- Characters that stand between other tokens, or at the end of a text, are read as these tokens. -/
def Lexes (chars : List Char) (tokens : List Token) : Prop :=
  ∀ before : List Token, ∃ scan, chars.foldlM Scan.step ⟨.between, before⟩ = some scan ∧
    scan.finish? = some (before.reverse ++ tokens)

/-- A character is a token by itself and belongs to no number and no word. -/
structure Mark (c : Char) (token : Token) : Prop where
  scan : ∀ before, scanBetween c before = some ⟨.between, token :: before⟩
  notNumber : isNumberChar c = false
  notWord : c.isLower = false

theorem mark_openArray : Mark '[' .openArray := ⟨fun _ => rfl, rfl, rfl⟩

theorem mark_closeArray : Mark ']' .closeArray := ⟨fun _ => rfl, rfl, rfl⟩

theorem mark_openObject : Mark '{' .openObject := ⟨fun _ => rfl, rfl, rfl⟩

theorem mark_closeObject : Mark '}' .closeObject := ⟨fun _ => rfl, rfl, rfl⟩

theorem mark_colon : Mark ':' .colon := ⟨fun _ => rfl, rfl, rfl⟩

theorem mark_comma : Mark ',' .comma := ⟨fun _ => rfl, rfl, rfl⟩

/-- A reader that could stop is between tokens when a mark follows. -/
theorem Mark.step {c : Char} {token : Token} (mark : Mark c token) {scan : Scan}
    {tokens : List Token} (finished : scan.finish? = some tokens) :
    scan.step c = some ⟨.between, token :: tokens.reverse⟩ := by
  obtain ⟨mode, before⟩ := scan
  cases mode with
  | between =>
      cases finished
      simp [Scan.step, mark.scan]
  | string done inside => cases finished
  | number done =>
      obtain ⟨value, read, rfl⟩ := Option.map_eq_some_iff.mp finished
      simp [Scan.step, mark.notNumber, read, mark.scan]
  | word done =>
      obtain ⟨value, read, rfl⟩ := Option.map_eq_some_iff.mp finished
      simp [Scan.step, mark.notWord, read, mark.scan]

theorem lexes_nil : Lexes [] [] := fun before => ⟨⟨.between, before⟩, rfl, by simp [Scan.finish?]⟩

/-- A mark divides what is read. -/
theorem Lexes.mark {front back : List Char} {first last : List Token} {c : Char} {token : Token}
    (lexesFront : Lexes front first) (mark : Mark c token) (lexesBack : Lexes back last) :
    Lexes (front ++ c :: back) (first ++ token :: last) := by
  intro before
  obtain ⟨scan, read, finished⟩ := lexesFront before
  obtain ⟨final, rest, ended⟩ := lexesBack (token :: (before.reverse ++ first).reverse)
  refine ⟨final, ?_, by simpa using ended⟩
  rw [List.foldlM_append, read]
  simp only [Option.bind_eq_bind, Option.bind_some, List.foldlM_cons, mark.step finished]
  exact rest

/-- Characters with commas between them are read as tokens with commas between them. -/
theorem Lexes.intercalate {texts : List (List Char)} {each : List (List Token)}
    (lexes : List.Forall₂ Lexes texts each) :
    Lexes ([','].intercalate texts) ([.comma].intercalate each) := by
  induction lexes with
  | nil => exact lexes_nil
  | cons first rest ih =>
      cases rest with
      | nil => simpa using first
      | cons second others =>
          rw [List.intercalate_cons_cons, List.intercalate_cons_cons, List.append_assoc,
            List.append_assoc]
          exact first.mark mark_comma ih

/-!
### Words and numbers
-/

/-- Characters that continue a token are collected. -/
theorem foldlM_collected {mode : List Char → Mode} {chars : List Char} {before : List Token}
    (continues : ∀ c ∈ chars, ∀ done,
      Scan.step ⟨mode done, before⟩ c = some ⟨mode (c :: done), before⟩) (done : List Char) :
    chars.foldlM Scan.step ⟨mode done, before⟩ = some ⟨mode (chars.reverse ++ done), before⟩ := by
  induction chars generalizing done with
  | nil => rfl
  | cons c rest ih =>
      rw [List.foldlM_cons, continues c List.mem_cons_self]
      simpa using ih (fun d found => continues d (List.mem_cons_of_mem _ found)) (c :: done)

/-- A word of small letters is read as its document. -/
theorem lexes_word {c : Char} {rest : List Char} {value : Json}
    (begins : ∀ before, scanBetween c before = some ⟨.word [c], before⟩)
    (small : rest.all Char.isLower) (read : ofWord? (c :: rest) = some value) :
    Lexes (c :: rest) [.atom value] := by
  intro before
  refine ⟨⟨.word (rest.reverse ++ [c]), before⟩, ?_, by simp [Scan.finish?, read]⟩
  rw [List.foldlM_cons, Scan.step, begins]
  have letters := List.all_eq_true.mp small
  exact foldlM_collected (fun d found done => by simp [Scan.step, letters d found]) [c]

theorem lexes_null : Lexes "null".toList [.atom .null] := by
  show Lexes ['n', 'u', 'l', 'l'] _
  exact lexes_word (fun _ => rfl) rfl rfl

theorem lexes_bool (value : Bool) :
    Lexes (Json.bool value).text.toList [.atom (.bool value)] := by
  cases value with
  | false =>
      show Lexes ['f', 'a', 'l', 's', 'e'] _
      exact lexes_word (fun _ => rfl) rfl rfl
  | true =>
      show Lexes ['t', 'r', 'u', 'e'] _
      exact lexes_word (fun _ => rfl) rfl rfl

/-- A digit or a minus sign begins a number. -/
theorem scanBetween_number {c : Char} (begins : c.isDigit ∨ c = '-') (before : List Token) :
    scanBetween c before = some ⟨.number [c], before⟩ := by
  have other : ∀ mark : Char, mark.isDigit = false → mark ≠ '-' → c ≠ mark := by
    rintro mark plain different rfl
    rcases begins with digit | minus
    · rw [plain] at digit
      cases digit
    · exact different minus
  unfold scanBetween
  simp only [other ' ' rfl (by decide), other '\n' rfl (by decide), other '\t' rfl (by decide),
    other '\r' rfl (by decide), other '[' rfl (by decide), other ']' rfl (by decide),
    other '{' rfl (by decide), other '}' rfl (by decide), other ':' rfl (by decide),
    other ',' rfl (by decide), other '"' rfl (by decide), or_false, if_false]
  rcases begins with digit | minus <;> simp [*]

theorem lexes_number {chars : List Char} {value : Json} (all : ∀ c ∈ chars, isNumberChar c)
    (begins : ∃ c ∈ chars.head?, c.isDigit ∨ c = '-') (read : ofNumber? chars = some value) :
    Lexes chars [.atom value] := by
  intro before
  cases chars with
  | nil => simp at begins
  | cons c rest =>
      obtain ⟨d, found, first⟩ := begins
      obtain rfl : c = d := by simpa using found
      refine ⟨⟨.number (rest.reverse ++ [c]), before⟩, ?_, by simp [Scan.finish?, read]⟩
      rw [List.foldlM_cons, Scan.step, scanBetween_number first]
      exact foldlM_collected
        (fun d later done => by simp [Scan.step, all d (List.mem_cons_of_mem _ later)]) [c]

theorem isNumberChar_of_mem_withSign {negative : Bool} {chars : List Char}
    (all : ∀ c ∈ chars, isNumberChar c) : ∀ c ∈ withSign negative chars, isNumberChar c := by
  cases negative with
  | false => exact all
  | true =>
      intro c found
      rcases List.mem_cons.mp found with rfl | later
      · rfl
      · exact all c later

theorem head_withSign {negative : Bool} {chars : List Char} (some_ : chars ≠ [])
    (digit : ∀ c ∈ chars.head?, c.isDigit) :
    ∃ c ∈ (withSign negative chars).head?, c.isDigit ∨ c = '-' := by
  cases negative with
  | true => exact ⟨'-', rfl, .inr rfl⟩
  | false =>
      have first := List.head?_eq_some_head some_
      exact ⟨chars.head some_, first, .inl (digit _ first)⟩

theorem lexes_int {value : Int} (low : -(twoTo 63 : Int) ≤ value) (high : value < twoTo 64) :
    Lexes (toString value).toList [.atom (.int value)] := by
  have digits := (plainDigits_toDigits value.natAbs).all
  refine lexes_number ?_ ?_ (ofNumber?_int low high)
  · rw [toList_toString_int]
    exact isNumberChar_of_mem_withSign fun c found => isNumberChar_of_isDigit (digits c found)
  · rw [toList_toString_int]
    exact head_withSign (plainDigits_toDigits value.natAbs).ne_nil fun c found =>
      digits c (List.mem_of_mem_head? found)

theorem lexes_float {value : Binary64} (valid : value.Valid) :
    Lexes value.text.toList [.atom (.float value.received)] := by
  obtain ⟨read, found⟩ := Binary64.ofNumber?_text valid
  obtain ⟨digits, scale, shape, sound, -⟩ := value.toList_text
  obtain ⟨whole, fraction, tail, exponent, spells⟩ := Binary64.decimalText_spells sound
  have same : value.received = read := by
    rw [Binary64.received, found]
  rw [same]
  refine lexes_number ?_ ?_ found
  · rw [shape]
    exact isNumberChar_of_mem_withSign spells.spelled.isNumberChar_of_mem
  · rw [shape]
    exact head_withSign spells.spelled.ne_nil spells.spelled.head_isDigit

/-!
### Strings
-/

theorem hexDigit?_lowerHexDigit : ∀ n < 16, Text.hexDigit? (lowerHexDigit n) = some n := by decide

/-- A character is read back from its escaped form. -/
theorem foldlM_escapedChar (c : Char) (done : List TextUnit) (before : List Token) :
    (escapedChar c).foldlM Scan.step ⟨.string done .plain, before⟩ =
      some ⟨.string (.char c :: done) .plain, before⟩ := by
  have same := Char.ofNat_toNat c
  unfold escapedChar
  split
  case isTrue quote => subst quote; rfl
  split
  case isTrue backslash => subst backslash; rfl
  split
  case isTrue backspace => rw [← same, backspace]; rfl
  split
  case isTrue feed => rw [← same, feed]; rfl
  split
  case isTrue line => subst line; rfl
  split
  case isTrue back => subst back; rfl
  split
  case isTrue tab => subst tab; rfl
  split
  case isTrue control =>
    have high := hexDigit?_lowerHexDigit (c.toNat / 16) (by omega)
    have low := hexDigit?_lowerHexDigit (c.toNat % 16) (by omega)
    have zero : Text.hexDigit? '0' = some 0 := rfl
    have value : TextUnit.ofNumber (c.toNat / 16 * 16 + c.toNat % 16) = .char c := by
      rw [Nat.div_add_mod', TextUnit.ofNumber, if_neg (by omega), same]
    simp [Scan.step, scanString, high, low, zero, value]
  case isFalse quote backslash _ _ _ _ _ control =>
    simp [Scan.step, scanString, quote, backslash, control]

theorem foldlM_escaped (chars : List Char) (done : List TextUnit) (before : List Token) :
    (chars.flatMap escapedChar).foldlM Scan.step ⟨.string done .plain, before⟩ =
      some ⟨.string ((chars.map TextUnit.char).reverse ++ done) .plain, before⟩ := by
  induction chars generalizing done with
  | nil => rfl
  | cons c rest ih =>
      rw [List.flatMap_cons, List.foldlM_append, foldlM_escapedChar]
      simpa using ih (.char c :: done)

/-- Characters are joined to what they are. -/
theorem joinReversed?_chars (chars joined : List Char) :
    joinReversed? (chars.map TextUnit.char) joined = some (chars.reverse ++ joined) := by
  induction chars generalizing joined with
  | nil => rfl
  | cons c rest ih => simpa [joinReversed?] using ih (c :: joined)

theorem lexes_string (value : String) : Lexes (stringText value).toList [.string (some value)] := by
  intro before
  refine ⟨⟨.between, .string (some value) :: before⟩, ?_, by simp [Scan.finish?]⟩
  have joined := joinReversed?_chars value.toList.reverse []
  rw [List.map_reverse, List.reverse_reverse, List.append_nil] at joined
  have opened : Scan.step ⟨.between, before⟩ '"' = some ⟨.string [] .plain, before⟩ := rfl
  have closed : Scan.step ⟨.string (value.toList.map TextUnit.char).reverse .plain, before⟩ '"' =
      some ⟨.between, .string (some value) :: before⟩ := by
    simp [Scan.step, scanString, joined]
  rw [stringText, String.toList_ofList, List.cons_append, List.foldlM_cons, opened]
  simp only [Option.bind_eq_bind, Option.bind_some, List.foldlM_append, foldlM_escaped,
    List.append_nil, List.foldlM_cons, closed, List.foldlM_nil, Option.pure_def]

/-!
### Documents
-/

mutual

/-- The text of a document that fits is read as its tokens. -/
theorem lexes_text : {room : Nat} → {document : Json} → Fits room document →
    Lexes document.text.toList document.tokens
  | _, .null, _ | _, .unreadable, _ => lexes_null
  | _, .bool value, _ => lexes_bool value
  | _, .int _, fits => lexes_int fits.1 fits.2
  | _, .float _, valid => lexes_float valid
  | _, .str value, _ => lexes_string value
  | _, .arr items, fits => by
      have inside := Lexes.intercalate (lexes_itemTexts fits.2)
      have closed := lexes_nil.mark mark_openArray (inside.mark mark_closeArray lexes_nil)
      simpa [text, tokens] using closed
  | _, .obj members, fits => by
      have inside := Lexes.intercalate (lexes_memberTexts fits.2)
      have closed := lexes_nil.mark mark_openObject (inside.mark mark_closeObject lexes_nil)
      simpa [text, tokens] using closed

theorem lexes_itemTexts : {room : Nat} → {items : List Json} → ItemsFit room items →
    List.Forall₂ Lexes ((itemTexts items).map String.toList) (itemTokens items)
  | _, [], _ => .nil
  | _, _ :: _, fits => .cons (lexes_text fits.1) (lexes_itemTexts fits.2)

theorem lexes_memberTexts : {room : Nat} → {members : List (String × Json)} →
    MembersFit room members →
    List.Forall₂ Lexes ((memberTexts members).map String.toList) (memberTokens members)
  | _, [], _ => .nil
  | _, (key, _) :: _, fits => by
      have pair := (lexes_string key).mark mark_colon (lexes_text fits.1)
      refine .cons ?_ (lexes_memberTexts fits.2)
      simpa using pair

end

/-- The tokens of a printed document are those of the document. -/
theorem ofText?_text {room : Nat} {document : Json} (fits : Fits room document) :
    Token.ofText? document.text = some document.tokens := by
  obtain ⟨scan, read, finished⟩ := lexes_text fits []
  rw [Token.ofText?, read]
  simpa using finished

end NginxFleet.Json
