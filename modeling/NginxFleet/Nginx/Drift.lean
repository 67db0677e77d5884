/-
Module: NginxFleet.Nginx.Drift
Layer: Nginx
Purpose: The parts of a deployment that the declared instance decides, and how an existing deployment
  is brought in line with the wanted one. Only these parts are compared, so whatever the server
  fills in by default is no drift; and only the number of pods and their template are changed.
Main exports: OwnedFields, Deployment.ownedFields, Deployment.repair?
-/
import NginxFleet.Object.Deployment

namespace NginxFleet

/-- The parts of a container that the instance decides. -/
structure OwnedContainer where
  name : String
  image : Option String
  ports : List (Option String × Int32)
  mounts : List (String × String × Option Bool)
deriving DecidableEq, Repr, Inhabited

/-- The parts of a deployment that the instance decides. Lists that are not set count as empty. -/
structure OwnedFields where
  replicas : Option Int32
  templateLabels : Option Labels
  containers : List OwnedContainer
  volumes : List (String × Option String)
deriving DecidableEq, Repr, Inhabited

/-- What is compared of a container. -/
def Container.owned (container : Container) : OwnedContainer where
  name := container.name
  image := container.image
  ports := (container.ports.getD []).map fun port => (port.name, port.containerPort)
  mounts := (container.volumeMounts.getD []).map fun mount =>
    (mount.name, mount.mountPath, mount.readOnly)

/-- What is compared of a volume. -/
def Volume.owned (volume : Volume) : String × Option String :=
  (volume.name, volume.configMap.map ConfigMapSource.name)

namespace Deployment

/-- What runs in the pods of a deployment. -/
def podSpec? (deployment : Deployment) : Option PodSpec :=
  deployment.spec.bind fun spec => spec.template.spec

/-- What is compared of a deployment. -/
def ownedFields (deployment : Deployment) : OwnedFields where
  replicas := deployment.spec.bind DeploymentSpec.replicas
  templateLabels := deployment.spec.bind fun spec => spec.template.labels
  containers :=
    match deployment.podSpec? with
    | some pod => pod.containers.map Container.owned
    | none => []
  volumes :=
    match deployment.podSpec? with
    | some pod => (pod.volumes.getD []).map Volume.owned
    | none => []

/-- The specification after a repair: the wanted number of pods and template, and all else as it
    was; the wanted specification if either side has none. -/
def repairedSpec (existing desired : Option DeploymentSpec) : Option DeploymentSpec :=
  match existing, desired with
  | some current, some wanted =>
    some { current with replicas := wanted.replicas, template := wanted.template }
  | _, _ => desired

/-- The existing deployment brought in line with the wanted one, or nothing if it has not drifted. -/
def repair? (existing desired : Deployment) : Option Deployment :=
  if existing.ownedFields = desired.ownedFields then none
  else some { existing with spec := repairedSpec existing.spec desired.spec }

end Deployment

end NginxFleet
