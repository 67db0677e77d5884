/-
Module: NginxFleet.Json.Parser
Layer: Json
Purpose: Building a document from its tokens. The builder keeps the arrays and objects that are open,
  the innermost first, and what may come next; each token moves it one step, so reading is a fold
  over the tokens and ends with the text. Arrays and objects that are nested too deeply, and objects
  with a key that is no text, are well-formed but unreadable.
Main exports: Json.nestingLimit, Json.parseMarked?, Json.parse?
-/
import NginxFleet.Json.Token

namespace NginxFleet.Json

/-- The members of an object in reverse, unless one of its keys is no text. -/
abbrev Members := Option (List (String × Json))

/-- Members with one more. -/
def Members.add (members : Members) (key? : Option String) (value : Json) : Members :=
  match members, key? with
  | some members, some key => some ((key, value) :: members)
  | _, _ => none

/-- An array or object that is not closed, with its parts so far in reverse. -/
inductive Frame where
  | array (items : List Json)
  | object (members : Members) (key? : Option String)
deriving Repr, Inhabited

/-- What may come next. -/
inductive Due where
  /-- A document. -/
  | value
  /-- A first item or the end of the array. -/
  | firstItem
  /-- A first key or the end of the object. -/
  | firstKey
  /-- Another key of an object with these members. -/
  | nextKey (members : Members)
  /-- The colon after a key. -/
  | colon
  /-- A comma or the end of the innermost array. -/
  | moreItems (items : List Json)
  /-- A comma or the end of the innermost object. -/
  | moreMembers (members : Members)
  /-- Nothing: the document is complete. -/
  | nothing (value : Json)
deriving Repr, Inhabited

/-- The builder: what is open, and what may come next. -/
structure Builder where
  frames : List Frame
  due : Due
deriving Repr, Inhabited

/-- The deepest nesting of arrays and objects that can be read. -/
def nestingLimit : Nat := 127

/-- An array or object inside the open ones, if it is not nested too deeply. -/
def nested (frames : List Frame) (value : Json) : Json :=
  if (frames.drop (nestingLimit - 1)).isEmpty then value else .unreadable

/-- The builder after a complete document. -/
def Builder.accept (frames : List Frame) (value : Json) : Builder :=
  match frames with
  | [] => ⟨[], .nothing value⟩
  | .array items :: rest => ⟨rest, .moreItems (value :: items)⟩
  | .object members key? :: rest => ⟨rest, .moreMembers (members.add key? value)⟩

/-- The builder after a complete array. -/
def Builder.closeArray (frames : List Frame) (items : List Json) : Builder :=
  accept frames (nested frames (.arr items.reverse))

/-- The builder after a complete object. -/
def Builder.closeObject (frames : List Frame) : Members → Builder
  | some members => accept frames (nested frames (.obj members.reverse))
  | none => accept frames .unreadable

/-- The builder after the first token of a document. -/
def Builder.open? (frames : List Frame) : Token → Option Builder
  | .atom value => some (accept frames value)
  | .string (some text) => some (accept frames (.str text))
  | .string none => some (accept frames .unreadable)
  | .openArray => some ⟨frames, .firstItem⟩
  | .openObject => some ⟨frames, .firstKey⟩
  | _ => none

/-- The builder after one more token. -/
def Builder.step (builder : Builder) (token : Token) : Option Builder :=
  let frames := builder.frames
  match builder.due, token with
  | .value, token => open? frames token
  | .firstItem, .closeArray => some (closeArray frames [])
  | .firstItem, token => open? (.array [] :: frames) token
  | .firstKey, .closeObject => some (closeObject frames (some []))
  | .firstKey, .string key? => some ⟨.object (some []) key? :: frames, .colon⟩
  | .nextKey members, .string key? => some ⟨.object members key? :: frames, .colon⟩
  | .colon, .colon => some ⟨frames, .value⟩
  | .moreItems items, .comma => some ⟨.array items :: frames, .value⟩
  | .moreItems items, .closeArray => some (closeArray frames items)
  | .moreMembers members, .comma => some ⟨frames, .nextKey members⟩
  | .moreMembers members, .closeObject => some (closeObject frames members)
  | _, _ => none

/-- The document that a text spells, with its unreadable parts marked as such, or nothing if it is
    not well-formed. -/
def parseMarked? (text : String) : Option Json := do
  let tokens ← Token.ofText? text
  let builder ← tokens.foldlM Builder.step ⟨[], .value⟩
  match builder.due with
  | .nothing value => some value
  | _ => none

/-- The document that a text spells, or nothing if it is not well-formed or some part of it is
    unreadable. -/
def parse? (text : String) : Option Json :=
  (parseMarked? text).filter isReadable

end NginxFleet.Json
