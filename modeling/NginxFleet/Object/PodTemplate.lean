/-
Module: NginxFleet.Object.PodTemplate
Layer: Object
Purpose: The template from which the pods of a deployment are made. The parts that the operator
  decides have fields of their own: the labels, and of each container its name, image, ports and
  volume mounts, and of each volume its name and config map. All other fields are carried along.
Main exports: ContainerPort, VolumeMount, Container, Volume, PodSpec, PodTemplate
-/
import NginxFleet.Object.PodShape

namespace NginxFleet

open Json

/-- A port that a container listens on. -/
structure ContainerPort where
  containerPort : Int32
  name : Option String := none
  extra : Extra := []
deriving DecidableEq, Repr, Inhabited

namespace ContainerPort

/-- Reads a container port. -/
def ofJson? (document : Json) : Option ContainerPort := do
  let m ← openMembers document
  let containerPort ← orElse readInt32 0 "containerPort" m
  let name ← optional readText "name" m
  let extra ← Shape.normalMembers? Shape.containerPortFields m
  some { containerPort, name, extra }

/-- Writes a container port. -/
def toJson (port : ContainerPort) : Json :=
  recordWith [
    ("containerPort", some (ofInt32 port.containerPort)),
    ("name", port.name.map .str)] port.extra

end ContainerPort

/-- A volume and the path at which a container sees it. -/
structure VolumeMount where
  mountPath : String
  name : String
  readOnly : Option Bool := none
  extra : Extra := []
deriving DecidableEq, Repr, Inhabited

namespace VolumeMount

/-- Reads a volume mount. -/
def ofJson? (document : Json) : Option VolumeMount := do
  let m ← openMembers document
  let mountPath ← orElse readText "" "mountPath" m
  let name ← orElse readText "" "name" m
  let readOnly ← optional readFlag "readOnly" m
  let extra ← Shape.normalMembers? Shape.volumeMountFields m
  some { mountPath, name, readOnly, extra }

/-- Writes a volume mount. -/
def toJson (mount : VolumeMount) : Json :=
  recordWith [
    ("mountPath", some (.str mount.mountPath)),
    ("name", some (.str mount.name)),
    ("readOnly", mount.readOnly.map .bool)] mount.extra

end VolumeMount

/-- A container of a pod. -/
structure Container where
  name : String
  image : Option String := none
  ports : Option (List ContainerPort) := none
  volumeMounts : Option (List VolumeMount) := none
  extra : Extra := []
deriving DecidableEq, Repr, Inhabited

namespace Container

/-- Reads a container. -/
def ofJson? (document : Json) : Option Container := do
  let m ← openMembers document
  let name ← orElse readText "" "name" m
  let image ← optional readText "image" m
  let ports ← optional (readList ContainerPort.ofJson?) "ports" m
  let volumeMounts ← optional (readList VolumeMount.ofJson?) "volumeMounts" m
  let extra ← Shape.normalMembers? Shape.containerFields m
  some { name, image, ports, volumeMounts, extra }

/-- Writes a container. -/
def toJson (container : Container) : Json :=
  recordWith [
    ("name", some (.str container.name)),
    ("image", container.image.map .str),
    ("ports", container.ports.map (Json.ofList ContainerPort.toJson)),
    ("volumeMounts", container.volumeMounts.map (Json.ofList VolumeMount.toJson))]
    container.extra

end Container

/-- The config map behind a volume. -/
structure ConfigMapSource where
  name : String
  extra : Extra := []
deriving DecidableEq, Repr, Inhabited

namespace ConfigMapSource

/-- Reads a config map source. -/
def ofJson? (document : Json) : Option ConfigMapSource := do
  let m ← openMembers document
  let name ← orElse readText "" "name" m
  let extra ← Shape.normalMembers? Shape.configMapSourceFields m
  some { name, extra }

/-- Writes a config map source. -/
def toJson (source : ConfigMapSource) : Json :=
  recordWith [("name", some (.str source.name))] source.extra

end ConfigMapSource

/-- A volume of a pod. -/
structure Volume where
  name : String
  configMap : Option ConfigMapSource := none
  extra : Extra := []
deriving DecidableEq, Repr, Inhabited

namespace Volume

/-- Reads a volume. -/
def ofJson? (document : Json) : Option Volume := do
  let m ← openMembers document
  let name ← orElse readText "" "name" m
  let configMap ← optional ConfigMapSource.ofJson? "configMap" m
  let extra ← Shape.normalMembers? Shape.volumeFields m
  some { name, configMap, extra }

/-- Writes a volume. -/
def toJson (volume : Volume) : Json :=
  recordWith [
    ("name", some (.str volume.name)),
    ("configMap", volume.configMap.map ConfigMapSource.toJson)] volume.extra

end Volume

/-- What runs in a pod. -/
structure PodSpec where
  containers : List Container := []
  volumes : Option (List Volume) := none
  extra : Extra := []
deriving DecidableEq, Repr, Inhabited

namespace PodSpec

/-- Reads a pod specification. -/
def ofJson? (document : Json) : Option PodSpec := do
  let m ← openMembers document
  let containers ← orElse (readList Container.ofJson?) [] "containers" m
  let volumes ← optional (readList Volume.ofJson?) "volumes" m
  let extra ← Shape.normalMembers? Shape.podSpecFields m
  some { containers, volumes, extra }

/-- Writes a pod specification. -/
def toJson (spec : PodSpec) : Json :=
  recordWith [
    ("containers", some (Json.ofList Container.toJson spec.containers)),
    ("volumes", spec.volumes.map (Json.ofList Volume.toJson))] spec.extra

end PodSpec

/-- The template of the pods of a deployment. -/
structure PodTemplate where
  metadata : Option ObjectMeta := none
  spec : Option PodSpec := none
deriving DecidableEq, Repr, Inhabited

namespace PodTemplate

/-- Reads a template. -/
def ofJson? (document : Json) : Option PodTemplate := do
  let m ← openMembers document
  let metadata ← optional ObjectMeta.ofJson? "metadata" m
  let spec ← optional PodSpec.ofJson? "spec" m
  some { metadata, spec }

/-- Writes a template. -/
def toJson (template : PodTemplate) : Json :=
  record [
    ("metadata", template.metadata.map ObjectMeta.toJson),
    ("spec", template.spec.map PodSpec.toJson)]

/-- The labels that the template puts on its pods. -/
def labels (template : PodTemplate) : Option Labels :=
  template.metadata.bind ObjectMeta.labels

end PodTemplate

end NginxFleet
