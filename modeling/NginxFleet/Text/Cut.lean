/-
Module: NginxFleet.Text.Cut
Layer: Text
Purpose: Cutting a text after given words. Reports end after the words for an answer that cannot be
  read, since what would follow depends on the reader of the answer.
Main exports: cutAfter
-/

namespace NginxFleet.Text

/-- The characters up to the end of the first occurrence of some words, or all of them. -/
def cutAfterChars (words : List Char) : List Char → List Char
  | [] => []
  | c :: rest => if words.isPrefixOf (c :: rest) then words else c :: cutAfterChars words rest

/-- A text up to the end of the first occurrence of some words, or all of it. -/
def cutAfter (words text : String) : String :=
  String.ofList (cutAfterChars words.toList text.toList)

end NginxFleet.Text
