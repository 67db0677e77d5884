/-
Module: NginxFleet.Object.Meta
Layer: Object
Purpose: The metadata that every Kubernetes object carries: its name and namespace, labels and
  annotations, owners, and what the server keeps about it. All of it survives reading and writing.
Main exports: Labels, OwnerReference, ManagedFields, ObjectMeta, ObjectMeta.ofJson?,
  ObjectMeta.toJson, ObjectMeta.displayName
-/
import NginxFleet.Json.Reader
import NginxFleet.Time.Timestamp

namespace NginxFleet

open Json

/-- Labels by key. -/
abbrev Labels := KeyMap String

/-- A point in time inside a document. -/
def readTime : Json → Option Timestamp
  | .str s => Timestamp.ofText? s
  | _ => none

/-- The document of a point in time. -/
def ofTime (t : Timestamp) : Json := .str t.text

/-- A free-form value: any document that is readable in all its parts. -/
def readFree (document : Json) : Option Json :=
  if document.isReadable then some document.canonical else none

/-- The object that an object belongs to. -/
structure OwnerReference where
  apiVersion : String
  blockOwnerDeletion : Option Bool := none
  controller : Option Bool := none
  kind : String
  name : String
  uid : String
deriving DecidableEq, Repr, Inhabited

namespace OwnerReference

/-- Reads an owner reference. -/
def ofJson? (document : Json) : Option OwnerReference := do
  let m ← openMembers document
  let apiVersion ← orElse readText "" "apiVersion" m
  let blockOwnerDeletion ← optional readFlag "blockOwnerDeletion" m
  let controller ← optional readFlag "controller" m
  let kind ← orElse readText "" "kind" m
  let name ← orElse readText "" "name" m
  let uid ← orElse readText "" "uid" m
  some { apiVersion, blockOwnerDeletion, controller, kind, name, uid }

/-- Writes an owner reference. -/
def toJson (owner : OwnerReference) : Json :=
  record [
    ("apiVersion", some (.str owner.apiVersion)),
    ("blockOwnerDeletion", owner.blockOwnerDeletion.map .bool),
    ("controller", owner.controller.map .bool),
    ("kind", some (.str owner.kind)),
    ("name", some (.str owner.name)),
    ("uid", some (.str owner.uid))]

end OwnerReference

/-- Which fields of an object a manager set, and when. -/
structure ManagedFields where
  apiVersion : Option String := none
  fieldsType : Option String := none
  fieldsV1 : Option Json := none
  manager : Option String := none
  operation : Option String := none
  subresource : Option String := none
  time : Option Timestamp := none
deriving DecidableEq, Repr, Inhabited

namespace ManagedFields

/-- Reads an entry. -/
def ofJson? (document : Json) : Option ManagedFields := do
  let m ← openMembers document
  let apiVersion ← optional readText "apiVersion" m
  let fieldsType ← optional readText "fieldsType" m
  let fieldsV1 ← optional readFree "fieldsV1" m
  let manager ← optional readText "manager" m
  let operation ← optional readText "operation" m
  let subresource ← optional readText "subresource" m
  let time ← optional readTime "time" m
  some { apiVersion, fieldsType, fieldsV1, manager, operation, subresource, time }

/-- Writes an entry. -/
def toJson (fields : ManagedFields) : Json :=
  record [
    ("apiVersion", fields.apiVersion.map .str),
    ("fieldsType", fields.fieldsType.map .str),
    ("fieldsV1", fields.fieldsV1),
    ("manager", fields.manager.map .str),
    ("operation", fields.operation.map .str),
    ("subresource", fields.subresource.map .str),
    ("time", fields.time.map ofTime)]

end ManagedFields

/-- The metadata of an object. -/
structure ObjectMeta where
  annotations : Option (KeyMap String) := none
  creationTimestamp : Option Timestamp := none
  deletionGracePeriodSeconds : Option Int64 := none
  deletionTimestamp : Option Timestamp := none
  finalizers : Option (List String) := none
  generateName : Option String := none
  generation : Option Int64 := none
  labels : Option Labels := none
  managedFields : Option (List ManagedFields) := none
  name : Option String := none
  namespaceName : Option String := none
  ownerReferences : Option (List OwnerReference) := none
  resourceVersion : Option String := none
  selfLink : Option String := none
  uid : Option String := none
deriving DecidableEq, Repr, Inhabited

namespace ObjectMeta

/-- Reads metadata. -/
def ofJson? (document : Json) : Option ObjectMeta := do
  let m ← openMembers document
  let annotations ← optional (readMap readText) "annotations" m
  let creationTimestamp ← optional readTime "creationTimestamp" m
  let deletionGracePeriodSeconds ← optional readInt64 "deletionGracePeriodSeconds" m
  let deletionTimestamp ← optional readTime "deletionTimestamp" m
  let finalizers ← optional (readList readText) "finalizers" m
  let generateName ← optional readText "generateName" m
  let generation ← optional readInt64 "generation" m
  let labels ← optional (readMap readText) "labels" m
  let managedFields ← optional (readList ManagedFields.ofJson?) "managedFields" m
  let name ← optional readText "name" m
  let namespaceName ← optional readText "namespace" m
  let ownerReferences ← optional (readList OwnerReference.ofJson?) "ownerReferences" m
  let resourceVersion ← optional readText "resourceVersion" m
  let selfLink ← optional readText "selfLink" m
  let uid ← optional readText "uid" m
  some { annotations, creationTimestamp, deletionGracePeriodSeconds, deletionTimestamp,
         finalizers, generateName, generation, labels, managedFields, name, namespaceName,
         ownerReferences, resourceVersion, selfLink, uid }

/-- Writes metadata. -/
def toJson (metadata : ObjectMeta) : Json :=
  record [
    ("annotations", metadata.annotations.map ofTextMap),
    ("creationTimestamp", metadata.creationTimestamp.map ofTime),
    ("deletionGracePeriodSeconds", metadata.deletionGracePeriodSeconds.map ofInt64),
    ("deletionTimestamp", metadata.deletionTimestamp.map ofTime),
    ("finalizers", metadata.finalizers.map (Json.ofList .str)),
    ("generateName", metadata.generateName.map .str),
    ("generation", metadata.generation.map ofInt64),
    ("labels", metadata.labels.map ofTextMap),
    ("managedFields", metadata.managedFields.map (Json.ofList ManagedFields.toJson)),
    ("name", metadata.name.map .str),
    ("namespace", metadata.namespaceName.map .str),
    ("ownerReferences", metadata.ownerReferences.map (Json.ofList OwnerReference.toJson)),
    ("resourceVersion", metadata.resourceVersion.map .str),
    ("selfLink", metadata.selfLink.map .str),
    ("uid", metadata.uid.map .str)]

/-- The name of an object, else the stem from which the server makes one, else nothing. -/
def displayName (metadata : ObjectMeta) : String :=
  metadata.name.getD (metadata.generateName.getD "")

end ObjectMeta

end NginxFleet
