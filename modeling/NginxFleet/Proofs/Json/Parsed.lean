/-
Module: NginxFleet.Proofs.Json.Parsed
Layer: Proofs
Purpose: What a document is like that was read in a text. The reader of tokens lets through only numbers
  in range, and the builder marks what is nested too deeply, so that the document can be written
  again. Both facts are kept by every step over a character or a token.
Main exports: Json.ofNumber?_fits, Json.step_sound, Json.Builder.Fits.step, Json.fits_of_parseMarked?
-/
import NginxFleet.Json.Parser
import NginxFleet.Proofs.Json.Fits
import NginxFleet.Proofs.Number.Scaling

namespace NginxFleet.Json

/-!
### Numbers and words
-/

theorem ofNumber?_fits {chars : List Char} {value : Json} (read : ofNumber? chars = some value) :
    Fits 0 value := by
  unfold ofNumber? at read
  simp only [Option.bind_eq_bind] at read
  split at read
  · cases read
  obtain ⟨⟨fraction, tail⟩, -, read⟩ := Option.bind_eq_some_iff.mp read
  obtain ⟨exponent, -, read⟩ := Option.bind_eq_some_iff.mp read
  dsimp only at read
  split at read
  case isTrue whole =>
    cases read
    simp only [Bool.and_eq_true, decide_eq_true_eq] at whole
    have small := whole.1.2
    exact ⟨by omega, by omega⟩
  split at read
  case isTrue whole =>
    cases read
    simp only [Bool.and_eq_true, decide_eq_true_eq] at whole
    have small := whole.1.1.2
    have wide : 0 < twoTo 64 := twoTo_pos 64
    exact ⟨by omega, by omega⟩
  case isFalse =>
    cases read
    cases made : Binary64.ofDecimal? _ _ _ with
    | none => trivial
    | some x => exact Binary64.ofDecimal?_valid made

theorem ofWord?_fits {chars : List Char} {value : Json} (read : ofWord? chars = some value) :
    Fits 0 value := by
  unfold ofWord? at read
  split at read
  · cases read; trivial
  split at read
  · cases read; trivial
  split at read
  · cases read; trivial
  · cases read

/-!
### Tokens
-/

/-- A token that is a document by itself has its numbers in range. -/
def Token.Sound : Token → Prop
  | .atom value => Fits 0 value
  | _ => True

/-- All tokens are sound. -/
def AllSound (tokens : List Token) : Prop :=
  ∀ token ∈ tokens, token.Sound

theorem AllSound.cons {tokens : List Token} {token : Token} (more : token.Sound)
    (sound : AllSound tokens) : AllSound (token :: tokens) := by
  intro each found
  rcases List.mem_cons.mp found with rfl | earlier
  · exact more
  · exact sound each earlier

theorem AllSound.reverse {tokens : List Token} (sound : AllSound tokens) : AllSound tokens.reverse :=
  fun token found => sound token (List.mem_reverse.mp found)

theorem sound_number {chars : List Char} {value : Json} (read : ofNumber? chars = some value) :
    (Token.atom value).Sound :=
  ofNumber?_fits read

theorem sound_word {chars : List Char} {value : Json} (read : ofWord? chars = some value) :
    (Token.atom value).Sound :=
  ofWord?_fits read

theorem scanBetween_sound {c : Char} {tokens : List Token} {scan : Scan} (sound : AllSound tokens)
    (read : scanBetween c tokens = some scan) : AllSound scan.tokens := by
  unfold scanBetween at read
  repeat' split at read
  all_goals cases read
  all_goals first | exact sound | exact sound.cons trivial

theorem scanString_sound {done : List TextUnit} {c : Char} {inside : StringMode} {tokens : List Token}
    {scan : Scan} (sound : AllSound tokens)
    (read : scanString done c tokens inside = some scan) : AllSound scan.tokens := by
  cases inside with
  | plain =>
      simp only [scanString] at read
      repeat' split at read
      all_goals cases read
      all_goals first | exact sound | exact sound.cons trivial
  | escape =>
      simp only [scanString] at read
      split at read
      · cases read
        exact sound
      · obtain ⟨d, -, rfl⟩ := Option.map_eq_some_iff.mp read
        exact sound
  | hex count value =>
      obtain ⟨digit, -, rfl⟩ := Option.map_eq_some_iff.mp read
      dsimp only
      split <;> exact sound

/-- The reading of a character lets through only sound tokens. -/
theorem step_sound {scan next : Scan} {c : Char} (sound : AllSound scan.tokens)
    (read : scan.step c = some next) : AllSound next.tokens := by
  obtain ⟨mode, tokens⟩ := scan
  cases mode with
  | between => exact scanBetween_sound sound read
  | string done inside => exact scanString_sound sound read
  | number done =>
      simp only [Scan.step] at read
      split at read
      · cases read
        exact sound
      · obtain ⟨value, number, read⟩ := Option.bind_eq_some_iff.mp read
        exact scanBetween_sound (sound.cons (sound_number number)) read
  | word done =>
      simp only [Scan.step] at read
      split at read
      · cases read
        exact sound
      · obtain ⟨value, word, read⟩ := Option.bind_eq_some_iff.mp read
        exact scanBetween_sound (sound.cons (sound_word word)) read

theorem foldlM_sound {scan final : Scan} {chars : List Char} (sound : AllSound scan.tokens)
    (read : chars.foldlM Scan.step scan = some final) : AllSound final.tokens := by
  induction chars generalizing scan with
  | nil =>
      cases read
      exact sound
  | cons c rest ih =>
      rw [List.foldlM_cons] at read
      obtain ⟨next, first, later⟩ := Option.bind_eq_some_iff.mp read
      exact ih (step_sound sound first) later

theorem finish?_sound {scan : Scan} {tokens : List Token} (sound : AllSound scan.tokens)
    (finished : scan.finish? = some tokens) : AllSound tokens := by
  obtain ⟨mode, before⟩ := scan
  cases mode with
  | between =>
      cases finished
      exact sound.reverse
  | string done inside => cases finished
  | number done =>
      obtain ⟨value, number, rfl⟩ := Option.map_eq_some_iff.mp finished
      exact (sound.cons (sound_number number)).reverse
  | word done =>
      obtain ⟨value, word, rfl⟩ := Option.map_eq_some_iff.mp finished
      exact (sound.cons (sound_word word)).reverse

/-- The tokens of a text are sound. -/
theorem sound_of_ofText? {text : String} {tokens : List Token}
    (read : Token.ofText? text = some tokens) : AllSound tokens := by
  obtain ⟨scan, run, finished⟩ := Option.bind_eq_some_iff.mp read
  have start : AllSound [] := fun token found => nomatch found
  exact finish?_sound (foldlM_sound start run) finished

/-!
### Documents
-/

/-- The values of members that are so far known fit. -/
def Members.Fits (room : Nat) (members : Members) : Prop :=
  ∀ known, members = some known → ∀ member ∈ known, Json.Fits room member.2

/-- The parts of an open array or object fit. -/
def Frame.Fits (room : Nat) : Frame → Prop
  | .array items => ∀ item ∈ items, Json.Fits room item
  | .object members _ => members.Fits room

/-- The parts of each array and object fit in the room that the ones around it leave. -/
def FramesFit : List Frame → Prop
  | [] => True
  | frame :: around => frame.Fits (nestingLimit - (around.length + 1)) ∧ FramesFit around

/-- The parts of what may be closed next fit. -/
def Due.Fits (room : Nat) : Due → Prop
  | .moreItems items => ∀ item ∈ items, Json.Fits (room - 1) item
  | .moreMembers members | .nextKey members => members.Fits (room - 1)
  | .nothing document => Json.Fits nestingLimit document
  | .value | .firstItem | .firstKey | .colon => True

/-- Everything that is built so far fits. -/
structure Builder.Fits (builder : Builder) : Prop where
  frames : FramesFit builder.frames
  due : builder.due.Fits (nestingLimit - builder.frames.length)

theorem Members.Fits.add {room : Nat} {members : Members} (fits : members.Fits room) {value : Json}
    (more : Json.Fits room value) (key? : Option String) : (members.add key? value).Fits room := by
  unfold Members.add
  split
  · rename_i known key
    rintro _ ⟨⟩ member among
    rcases List.mem_cons.mp among with rfl | earlier
    · exact more
    · exact fits known rfl member earlier
  · exact fun _ none_ => nomatch none_

/-- A complete document that fits in its place becomes a part of what is around it. -/
theorem Builder.fits_accept {frames : List Frame} (around : FramesFit frames) {value : Json}
    (fits : Json.Fits (nestingLimit - frames.length) value) : (accept frames value).Fits := by
  cases frames with
  | nil => exact ⟨trivial, fits⟩
  | cons frame rest =>
      cases frame with
      | array items =>
          refine ⟨around.2, fun item among => ?_⟩
          rcases List.mem_cons.mp among with rfl | earlier
          · exact fits
          · exact around.1 item earlier
      | object members key? => exact ⟨around.2, around.1.add fits key?⟩

theorem fits_nested {frames : List Frame} {value : Json}
    (fits : frames.length < nestingLimit → Fits (nestingLimit - frames.length) value) :
    Fits (nestingLimit - frames.length) (nested frames value) := by
  unfold nested
  split
  · rename_i few
    rw [List.isEmpty_iff, List.drop_eq_nil_iff] at few
    exact fits (Nat.lt_of_le_sub_one (by decide) few)
  · trivial

theorem Builder.fits_closeArray {frames : List Frame} (around : FramesFit frames) {items : List Json}
    (fits : ∀ item ∈ items, Json.Fits (nestingLimit - frames.length - 1) item) :
    (closeArray frames items).Fits := by
  refine fits_accept around (fits_nested fun few => fits_arr_iff.mpr ⟨by omega, fun item among => ?_⟩)
  exact fits item (List.mem_reverse.mp among)

theorem Builder.fits_closeObject {frames : List Frame} (around : FramesFit frames) {members : Members}
    (fits : members.Fits (nestingLimit - frames.length - 1)) : (closeObject frames members).Fits := by
  cases members with
  | none => exact fits_accept around trivial
  | some known =>
      refine fits_accept around
        (fits_nested fun few => fits_obj_iff.mpr ⟨by omega, fun member among => ?_⟩)
      exact fits known rfl member (List.mem_reverse.mp among)

theorem Builder.fits_open? {frames : List Frame} (around : FramesFit frames) {token : Token}
    (sound : token.Sound) {next : Builder} (opened : open? frames token = some next) : next.Fits := by
  unfold open? at opened
  split at opened
  · cases opened
    exact fits_accept around (Fits.of_atom sound)
  · cases opened
    exact fits_accept around trivial
  · cases opened
    exact fits_accept around trivial
  · cases opened
    exact ⟨around, trivial⟩
  · cases opened
    exact ⟨around, trivial⟩
  · cases opened

theorem Builder.Fits.step {builder next : Builder} {token : Token} (fits : builder.Fits)
    (sound : token.Sound) (moved : builder.step token = some next) : next.Fits := by
  obtain ⟨frames, due⟩ := builder
  obtain ⟨around, parts⟩ := fits
  have none_ : Members.Fits (nestingLimit - (frames.length + 1)) (some []) := by
    rintro _ ⟨⟩ member among
    cases among
  unfold Builder.step at moved
  dsimp only at moved around parts
  -- One case for each kind of token that may come, in the order of the rules of the builder.
  split at moved
  · exact fits_open? around sound moved
  · cases moved
    exact fits_closeArray around fun item among => nomatch among
  · have begun : FramesFit (.array [] :: frames) := ⟨fun item among => (nomatch among), around⟩
    exact fits_open? begun sound moved
  · cases moved
    exact fits_closeObject around none_
  · cases moved
    exact ⟨⟨none_, around⟩, trivial⟩
  · cases moved
    exact ⟨⟨parts, around⟩, trivial⟩
  · cases moved
    exact ⟨around, trivial⟩
  · cases moved
    exact ⟨⟨parts, around⟩, trivial⟩
  · cases moved
    exact fits_closeArray around parts
  · cases moved
    exact ⟨around, parts⟩
  · cases moved
    exact fits_closeObject around parts
  · cases moved

theorem Builder.Fits.run {builder final : Builder} {tokens : List Token} (fits : builder.Fits)
    (sound : AllSound tokens)
    (moved : tokens.foldlM Builder.step builder = some final) : final.Fits := by
  induction tokens generalizing builder with
  | nil =>
      cases moved
      exact fits
  | cons token rest ih =>
      rw [List.foldlM_cons] at moved
      obtain ⟨next, first, later⟩ := Option.bind_eq_some_iff.mp moved
      exact ih (fits.step (sound token List.mem_cons_self) first)
        (fun each among => sound each (List.mem_cons_of_mem _ among)) later

/-- A document that was read in a text is not nested too deeply, and its numbers are in range. -/
theorem fits_of_parseMarked? {text : String} {document : Json}
    (read : parseMarked? text = some document) : Fits nestingLimit document := by
  obtain ⟨tokens, lexed, read⟩ := Option.bind_eq_some_iff.mp read
  obtain ⟨builder, built, read⟩ := Option.bind_eq_some_iff.mp read
  have start : Builder.Fits ⟨[], .value⟩ := ⟨trivial, trivial⟩
  have final := start.run (sound_of_ofText? lexed) built
  split at read
  · rename_i value complete
    cases read
    have parts := final.due
    rw [complete] at parts
    exact parts
  · cases read

end NginxFleet.Json
