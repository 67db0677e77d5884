/-
Module: NginxFleet.Json.Edit
Layer: Json
Purpose: Changing documents: setting a member of an object, and applying a merge patch. A merge patch
  is a document: its null members are removed, its other members are merged in, and a patch that is
  no object replaces the whole.
Main exports: Json.setMember, Json.mergePatch
-/
import NginxFleet.Json.Basic

namespace NginxFleet.Json

/-- Members without those of a key. -/
def withoutKey (key : String) (members : List (String × Json)) : List (String × Json) :=
  members.filter fun member => member.1 != key

/-- Members with one value for a key. -/
def withKey (key : String) (value : Json) (members : List (String × Json)) :
    List (String × Json) :=
  withoutKey key members ++ [(key, value)]

/-- An object with a member set; any other document is left as it is. -/
def setMember (key : String) (value : Json) : Json → Json
  | .obj members => .obj (withKey key value members)
  | other => other

/-- The members of a document, none if it is no object. -/
def membersOrNone : Json → List (String × Json)
  | .obj members => members
  | _ => []

mutual

/-- The document after a merge patch. -/
def mergePatch (target : Json) : Json → Json
  | .obj changes => .obj (mergeMembers target.membersOrNone changes)
  | other => other

/-- The members after the changes of a merge patch. -/
def mergeMembers (target : List (String × Json)) : List (String × Json) → List (String × Json)
  | [] => target
  | (key, change) :: rest =>
    match change with
    | .null => mergeMembers (withoutKey key target) rest
    | change =>
      let old := (occurrences key target).getLast?.getD .null
      mergeMembers (withKey key (mergePatch old change) target) rest

end

end NginxFleet.Json
