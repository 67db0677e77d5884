/-
Module: NginxFleet.Object.Shape
Layer: Object
Purpose: The shapes of the parts of Kubernetes objects that the operator does not look into but whose
  types count: an object with one field of a wrong type, or without a field that it needs, cannot be
  read at all. A shape turns a document into its normal form, with the known fields that are set, or
  refuses it.
Main exports: Shape, Shape.record, Shape.normal?, Shape.normalMembers?
-/
import NginxFleet.Object.Meta

namespace NginxFleet

open Json

/-- A whole number or a text, for ports and amounts that may be named or relative. -/
inductive IntOrText where
  | int (value : Int32)
  | text (value : String)
deriving DecidableEq, Repr, Inhabited

namespace IntOrText

/-- Reads a whole number of 32 bits or a text. -/
def ofJson? : Json → Option IntOrText
  | .str s => some (.text s)
  | document => (readInt32 document).map .int

/-- Writes a whole number or a text. -/
def toJson : IntOrText → Json
  | .int value => ofInt32 value
  | .text value => .str value

end IntOrText

/-- The shape of a document. -/
inductive Shape where
  | text
  | flag
  | int32
  | int64
  | time
  | intOrText
  | free
  | list (item : Shape)
  | map (value : Shape)
  /-- An open record. The needed fields must be set, the others may be. -/
  | recordOf (needed fields : List (String × Shape))
deriving Repr, Inhabited

/-- An open record that needs no field. -/
abbrev Shape.record (fields : List (String × Shape)) : Shape := .recordOf [] fields

/-- Sets a member of a list of members if there is a value for it. -/
def withMember (key : String) (value : Option Json) (rest : List (String × Json)) :
    List (String × Json) :=
  match value with
  | some document => (key, document) :: rest
  | none => rest

mutual

/-- The normal form of a document of a shape. -/
def Shape.normal? : Shape → Json → Option Json
  | .text, document => (readText document).map .str
  | .flag, document => (readFlag document).map .bool
  | .int32, document => (readInt32 document).map ofInt32
  | .int64, document => (readInt64 document).map ofInt64
  | .time, document => (readTime document).map ofTime
  | .intOrText, document => (IntOrText.ofJson? document).map IntOrText.toJson
  | .free, document => readFree document
  | .list item, document => (readList item.normal? document).map .arr
  | .map value, document => (readMap value.normal? document).map (ofMap id)
  | .recordOf needed fields, document =>
    (openMembers document).bind fun members =>
      (Shape.neededMembers? needed members).bind fun present =>
        (Shape.normalMembers? fields members).map fun rest => .obj (present ++ rest)

/-- The normal forms of the members of an open record that are known and set. -/
def Shape.normalMembers? :
    List (String × Shape) → List (String × Json) → Option (List (String × Json))
  | [], _ => some []
  | (key, shape) :: rest, members =>
    (optional shape.normal? key members).bind fun value =>
      (Shape.normalMembers? rest members).map (withMember key value)

/-- The normal forms of the members of an open record that must be set. -/
def Shape.neededMembers? :
    List (String × Shape) → List (String × Json) → Option (List (String × Json))
  | [], _ => some []
  | (key, shape) :: rest, members =>
    (required shape.normal? key members).bind fun value =>
      (Shape.neededMembers? rest members).map ((key, value) :: ·)

end

/-- The members of an open record that a type does not name by fields of its own. -/
abbrev Extra := List (String × Json)

/-- The object with the members that are set and the extra ones. -/
def recordWith (members : List (String × Option Json)) (extra : Extra) : Json :=
  .obj (setMembers members ++ extra)

end NginxFleet
