/-
Module: NginxFleet.Object.Place
Layer: Object
Purpose: Where objects are kept: under a collection, a namespace and a name; and what the path of a
  request refers to.
Main exports: ObjectKey, Place, Place.namespaceOf?, Place.ofPath?
-/
import NginxFleet.Text.Split

namespace NginxFleet

/-- Where an object is kept. -/
structure ObjectKey where
  collection : String
  namespaceName : String
  name : String
deriving DecidableEq, Repr, Inhabited

/-- The text of a key. -/
def ObjectKey.text (key : ObjectKey) : String :=
  key.collection ++ "/" ++ key.namespaceName ++ "/" ++ key.name

/-- What a path refers to: the objects of a collection in a namespace, one of them, or the status of
    one of them. -/
inductive Place where
  | all (collection namespaceName : String)
  | one (key : ObjectKey)
  | status (key : ObjectKey)
deriving DecidableEq, Repr, Inhabited

namespace Place

/-- The parts of a path from the first that announces a namespace. -/
def namespacedParts (path : String) : List String :=
  (Text.split '/' path).dropWhile (· != "namespaces")

/-- The namespace that a path asks for, whatever follows it. -/
def namespaceOf? (path : String) : Option String :=
  (namespacedParts path)[1]?

/-- The place that a path refers to, by what follows its namespaces part. Parts after a name do not
    count, unless the first of them asks for the status. -/
def ofPath? (path : String) : Option Place :=
  match namespacedParts path with
  | [_, namespaceName, collection] => some (.all collection namespaceName)
  | _ :: namespaceName :: collection :: name :: "status" :: _ =>
    some (.status ⟨collection, namespaceName, name⟩)
  | _ :: namespaceName :: collection :: name :: _ => some (.one ⟨collection, namespaceName, name⟩)
  | _ => none

/-- The collection of a place. -/
def collection : Place → String
  | .all collection _ => collection
  | .one key | .status key => key.collection

end Place

end NginxFleet
