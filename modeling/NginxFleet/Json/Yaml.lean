/-
Module: NginxFleet.Json.Yaml
Layer: Json
Purpose: The YAML text of a document in block style: a line for each member and item, nesting by
  indentation, items of a list at the column of its key, empty lists and objects in brackets, and
  strings in quotes where they would read as something else.
Main exports: Json.yamlText
-/
import NginxFleet.Json.Printer

namespace NginxFleet.Json

/-- The words that stand for other values than their text. -/
def yamlWords : List String :=
  ["true", "false", "null", "yes", "no", "on", "off", "y", "n"]

/-- Whether a string can stand without quotes: it starts with a letter, reads as no other value, and
    holds neither a key mark nor a comment mark. -/
def isPlainYaml (s : String) : Bool :=
  let chars := s.toList
  (chars.head?.any Char.isAlpha) && !(yamlWords.contains s.toLower) &&
    chars.all (fun c => 0x20 ≤ c.toNat && c.toNat < 0x7F) &&
    !((chars.zip chars.tail).contains (':', ' ')) &&
    !((chars.zip chars.tail).contains (' ', '#')) &&
    chars.getLast? != some ':' && chars.getLast? != some ' '

/-- The text of a string, with single quotes where needed. -/
def yamlString (s : String) : String :=
  if isPlainYaml s then s
  else
    let quoted := s.toList.flatMap fun c => if c = '\'' then ['\'', '\''] else [c]
    String.ofList ('\'' :: quoted ++ ['\''])

/-- The text of a document that has no lines of its own. -/
def yamlScalar? : Json → Option String
  | .str s => some (yamlString s)
  | .arr [] => some "[]"
  | .obj [] => some "\x7b\x7d"
  | .arr _ | .obj _ => none
  | document => some document.text

/-- Lines behind a mark on the first one, and under it. -/
def hang (mark : String) : List String → List String
  | [] => []
  | first :: rest => (mark ++ first) :: rest.map fun line => "".pushn ' ' mark.length ++ line

mutual

/-- The lines of a document. -/
def yamlLines : Json → List String
  | .arr items => if items.isEmpty then ["[]"] else yamlItems items
  | .obj members => if members.isEmpty then ["\x7b\x7d"] else yamlMembers members
  | document => [(yamlScalar? document).getD ""]

/-- The lines of items. -/
def yamlItems : List Json → List String
  | [] => []
  | item :: rest => hang "- " (yamlLines item) ++ yamlItems rest

/-- The lines of members. -/
def yamlMembers : List (String × Json) → List String
  | [] => []
  | (key, value) :: rest =>
    let lines := yamlLines value
    let own :=
      match value, yamlScalar? value with
      | _, some scalar => [yamlString key ++ ": " ++ scalar]
      | .arr _, none => (yamlString key ++ ":") :: lines
      | _, none => (yamlString key ++ ":") :: lines.map ("  " ++ ·)
    own ++ yamlMembers rest

end

/-- The YAML text of a document. -/
def yamlText (document : Json) : String :=
  String.join ((yamlLines document).map (· ++ "\n"))

end NginxFleet.Json
