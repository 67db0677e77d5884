/-
Module: NginxFleet.Discovery.Group
Layer: Discovery
Purpose: What a server says of the groups of interfaces that it serves, of their versions, and of the
  kinds of objects in each version.
Main exports: GroupVersion, ApiGroup, ApiGroup.listOfJson?, ApiResource, ResourceList,
  ResourceList.ofJson?
-/
import NginxFleet.Object.Shape

namespace NginxFleet

open Json

/-- A version of a group: its name alone, and with its group. -/
structure GroupVersion where
  groupVersion : String
  version : String
deriving DecidableEq, Repr, Inhabited

/-- Reads a version of a group. -/
def GroupVersion.ofJson? (document : Json) : Option GroupVersion := do
  let m ← openMembers document
  let groupVersion ← orElse readText "" "groupVersion" m
  let version ← orElse readText "" "version" m
  some { groupVersion, version }

/-- A group with its versions. -/
structure ApiGroup where
  name : String
  versions : List GroupVersion
  preferred : Option GroupVersion
deriving DecidableEq, Repr, Inhabited

namespace ApiGroup

/-- The addresses at which clients reach a server. -/
def addresses : Shape := .list (.record [("clientCIDR", .text), ("serverAddress", .text)])

/-- Reads a group. -/
def ofJson? (document : Json) : Option ApiGroup := do
  let m ← identified "v1" "APIGroup" document
  let name ← orElse readText "" "name" m
  let preferred ← optional GroupVersion.ofJson? "preferredVersion" m
  let _ ← optional addresses.normal? "serverAddressByClientCIDRs" m
  let versions ← orElse (readList GroupVersion.ofJson?) [] "versions" m
  some { name, versions, preferred }

/-- Reads a list of groups. -/
def listOfJson? (document : Json) : Option (List ApiGroup) := do
  let m ← identified "v1" "APIGroupList" document
  orElse (readList ofJson?) [] "groups" m

end ApiGroup

/-- A kind of objects, or a part of one if its name has a slash. -/
structure ApiResource where
  name : String
  kind : String
  version : Option String
deriving DecidableEq, Repr, Inhabited

namespace ApiResource

/-- What a list says of a kind besides. -/
def otherFields : List (String × Shape) := [
  ("categories", .list .text), ("group", .text), ("namespaced", .flag),
  ("shortNames", .list .text), ("singularName", .text), ("storageVersionHash", .text),
  ("verbs", .list .text)]

/-- Reads a kind. -/
def ofJson? (document : Json) : Option ApiResource := do
  let m ← openMembers document
  let _ ← Shape.normalMembers? otherFields m
  let name ← orElse readText "" "name" m
  let kind ← orElse readText "" "kind" m
  let version ← optional readText "version" m
  some { name, kind, version }

end ApiResource

/-- The kinds of objects in a version of a group. -/
structure ResourceList where
  groupVersion : String
  resources : List ApiResource
deriving DecidableEq, Repr, Inhabited

/-- Reads a list of kinds. -/
def ResourceList.ofJson? (document : Json) : Option ResourceList := do
  let m ← identified "v1" "APIResourceList" document
  let groupVersion ← orElse readText "" "groupVersion" m
  let resources ← orElse (readList ApiResource.ofJson?) [] "resources" m
  some { groupVersion, resources }

end NginxFleet
