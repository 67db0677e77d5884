/-
Module: NginxFleet.Object.Document
Layer: Object
Purpose: What can be read off the document of any object, whatever its type.
Main exports: Json.metadataText?, Json.label?
-/
import NginxFleet.Json.Reader

namespace NginxFleet

namespace Json

/-- The text in a member of the metadata of an object. -/
def metadataText? (key : String) (object : Json) : Option String :=
  ((object.member? "metadata").bind (member? key)).bind readText

/-- The label of a key of an object. -/
def label? (key : String) (object : Json) : Option String :=
  (((object.member? "metadata").bind (member? "labels")).bind (member? key)).bind readText

end Json

end NginxFleet
