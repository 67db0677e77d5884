/-
Module: NginxFleet.Object.Service
Layer: Object
Purpose: Services: the address inside the cluster under which the pods with certain labels are
  reached. The type, the selector and the ports have fields of their own; all else is carried along.
Main exports: ServicePort, ServiceSpec, Service, Service.ofJson?, Service.toJson
-/
import NginxFleet.Object.PodShape

namespace NginxFleet

open Json

/-- A port of a service, and the port of the pods behind it. -/
structure ServicePort where
  name : Option String := none
  port : Int32
  targetPort : Option IntOrText := none
  extra : Extra := []
deriving DecidableEq, Repr, Inhabited

namespace ServicePort

/-- Reads a service port. -/
def ofJson? (document : Json) : Option ServicePort := do
  let m ← openMembers document
  let name ← optional readText "name" m
  let port ← orElse readInt32 0 "port" m
  let targetPort ← optional IntOrText.ofJson? "targetPort" m
  let extra ← Shape.normalMembers? Shape.servicePortFields m
  some { name, port, targetPort, extra }

/-- Writes a service port. -/
def toJson (port : ServicePort) : Json :=
  recordWith [
    ("name", port.name.map .str),
    ("port", some (ofInt32 port.port)),
    ("targetPort", port.targetPort.map IntOrText.toJson)] port.extra

end ServicePort

/-- What a service should be. -/
structure ServiceSpec where
  ports : Option (List ServicePort) := none
  selector : Option Labels := none
  type : Option String := none
  extra : Extra := []
deriving DecidableEq, Repr, Inhabited

namespace ServiceSpec

/-- Reads a specification. -/
def ofJson? (document : Json) : Option ServiceSpec := do
  let m ← openMembers document
  let ports ← optional (readList ServicePort.ofJson?) "ports" m
  let selector ← optional (readMap readText) "selector" m
  let type ← optional readText "type" m
  let extra ← Shape.normalMembers? Shape.serviceSpecFields m
  some { ports, selector, type, extra }

/-- Writes a specification. -/
def toJson (spec : ServiceSpec) : Json :=
  recordWith [
    ("ports", spec.ports.map (Json.ofList ServicePort.toJson)),
    ("selector", spec.selector.map ofTextMap),
    ("type", spec.type.map .str)] spec.extra

end ServiceSpec

/-- A service. Its status is kept in normal form. -/
structure Service where
  metadata : ObjectMeta := {}
  spec : Option ServiceSpec := none
  status : Option Json := none
deriving DecidableEq, Repr, Inhabited

namespace Service

/-- The version of the interface to which services belong. -/
def apiVersion : String := "v1"

/-- Reads a service. -/
def ofJson? (document : Json) : Option Service := do
  let m ← identified apiVersion "Service" document
  let metadata ← orElse ObjectMeta.ofJson? {} "metadata" m
  let spec ← optional ServiceSpec.ofJson? "spec" m
  let status ← optional Shape.serviceStatus.normal? "status" m
  some { metadata, spec, status }

/-- Writes a service. -/
def toJson (service : Service) : Json :=
  record [
    ("apiVersion", some (.str apiVersion)),
    ("kind", some (.str "Service")),
    ("metadata", some service.metadata.toJson),
    ("spec", service.spec.map ServiceSpec.toJson),
    ("status", service.status)]

end Service

end NginxFleet
