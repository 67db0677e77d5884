/-
Module: NginxFleet.Nginx.Wire
Layer: Nginx
Purpose: The documents of Nginx resources. Reading ignores unknown members, and also what the
  document says of its version and kind. Writing leaves out what is not set, but a status that is
  set always has its pods, each with a name and an address.
Main exports: Nginx.ofJson?, Nginx.toJson, PodEntry.ofJson?, PodEntry.toJson
-/
import NginxFleet.Json.Reader
import NginxFleet.Nginx.Basic

namespace NginxFleet

open Json

namespace ConfigRef

/-- Reads a reference. -/
def ofJson? (document : Json) : Option ConfigRef := do
  let m ← strictMembers ["name"] 1 document
  let name ← required readText "name" m
  some { name }

/-- Writes a reference. -/
def toJson (ref : ConfigRef) : Json :=
  record [("name", some (.str ref.name))]

end ConfigRef

namespace NginxSpec

/-- Reads a specification. -/
def ofJson? (document : Json) : Option NginxSpec := do
  let m ← strictMembers ["replicas", "image", "config"] 3 document
  let replicas ← optional readInt32 "replicas" m
  let image ← optional readText "image" m
  let config ← optional ConfigRef.ofJson? "config" m
  some { replicas, image, config }

/-- Writes a specification. -/
def toJson (spec : NginxSpec) : Json :=
  record [
    ("replicas", spec.replicas.map ofInt32),
    ("image", spec.image.map .str),
    ("config", spec.config.map ConfigRef.toJson)]

end NginxSpec

namespace PodEntry

/-- Reads an entry. -/
def ofJson? (document : Json) : Option PodEntry := do
  let m ← strictMembers ["name", "podIP"] 1 document
  let name ← required readText "name" m
  let podIP ← orMissing readText "" "podIP" m
  some { name, podIP }

/-- Writes an entry. -/
def toJson (pod : PodEntry) : Json :=
  record [("name", some (.str pod.name)), ("podIP", some (.str pod.podIP))]

end PodEntry

namespace NginxStatus

/-- Reads a status. -/
def ofJson? (document : Json) : Option NginxStatus := do
  let m ← strictMembers ["pods"] 0 document
  let pods ← orMissing (readList PodEntry.ofJson?) [] "pods" m
  some { pods }

/-- Writes a status. -/
def toJson (status : NginxStatus) : Json :=
  record [("pods", some (Json.ofList PodEntry.toJson status.pods))]

end NginxStatus

namespace Nginx

/-- Reads an Nginx resource. -/
def ofJson? (document : Json) : Option Nginx := do
  let m ← strictMembers ["metadata", "spec", "status"] 3 document
  let metadata ← required ObjectMeta.ofJson? "metadata" m
  let spec ← required NginxSpec.ofJson? "spec" m
  let status ← optional NginxStatus.ofJson? "status" m
  some { metadata, spec, status }

/-- Writes an Nginx resource. -/
def toJson (nginx : Nginx) : Json :=
  record [
    ("apiVersion", some (.str apiVersion)),
    ("kind", some (.str kind)),
    ("metadata", some nginx.metadata.toJson),
    ("spec", some nginx.spec.toJson),
    ("status", nginx.status.map NginxStatus.toJson)]

end Nginx

end NginxFleet
