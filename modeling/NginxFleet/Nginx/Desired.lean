/-
Module: NginxFleet.Nginx.Desired
Layer: Nginx
Purpose: The deployment and the service that an instance should have, as functions of the instance
  alone. The labels of the pods and the selector by which the pods are found again come from one
  definition, so a search for the pods of an instance finds the pods that its deployment runs.
Main exports: labelsFor, labelSelector, Nginx.ownerReference?, Nginx.desiredDeployment,
  Nginx.desiredService
-/
import NginxFleet.Nginx.Basic
import NginxFleet.Object.Deployment
import NginxFleet.Object.Service

namespace NginxFleet

/-- The label key that says which application a pod runs. -/
def appKey : String := "app"

/-- The value of the application label. -/
def appValue : String := "nginx"

/-- The label key that names the instance to which a pod belongs. -/
def instanceKey : String := "nginx.tsuru.io/resource-name"

/-- The labels of the pods of an instance. -/
def labelsFor (name : String) : Labels :=
  KeyMap.ofList [(appKey, appValue), (instanceKey, name)]

/-- The text of labels as requirements of equality, in the order of their keys. -/
def selectorText (labels : Labels) : String :=
  ",".intercalate (labels.entries.map fun entry => entry.1 ++ "=" ++ entry.2)

/-- The selector that finds the pods of an instance. -/
def labelSelector (name : String) : String :=
  selectorText (labelsFor name)

/-- The name of the only container. -/
def containerName : String := "nginx"

/-- The number of the only port. -/
def httpPort : Int32 := 80

/-- The name of the only port. -/
def httpPortName : String := "http"

/-- The name of the volume with the configuration. -/
def configVolumeName : String := "nginx-config"

/-- The path at which the container sees its configuration. -/
def configMountPath : String := "/etc/nginx"

namespace Nginx

/-- The reference by which built objects belong to an instance. There is none before the server has
    given the instance a name and an identity. -/
def ownerReference? (nginx : Nginx) : Option OwnerReference :=
  match nginx.metadata.name, nginx.metadata.uid with
  | some name, some uid =>
    some { apiVersion := apiVersion, controller := some true, kind := kind, name, uid }
  | _, _ => none

/-- The metadata of an object built for an instance. -/
def dependentMetadata (nginx : Nginx) (name : String) : ObjectMeta where
  name := some name
  namespaceName := nginx.metadata.namespaceName
  labels := some (labelsFor nginx.name)
  ownerReferences := nginx.ownerReference?.map fun owner => [owner]

/-- The volumes of the pods: the config map, if there is one. -/
def desiredVolumes (nginx : Nginx) : Option (List Volume) :=
  nginx.spec.config.map fun config =>
    [{ name := configVolumeName, configMap := some { name := config.name } }]

/-- The volume mounts of the container: the configuration, read only, if there is one. -/
def desiredMounts (nginx : Nginx) : Option (List VolumeMount) :=
  nginx.spec.config.map fun _ =>
    [{ name := configVolumeName, mountPath := configMountPath, readOnly := some true }]

/-- The only container of the pods. -/
def desiredContainer (nginx : Nginx) : Container where
  name := containerName
  image := some nginx.image
  ports := some [{ name := some httpPortName, containerPort := httpPort }]
  volumeMounts := nginx.desiredMounts

/-- The template of the pods. -/
def desiredTemplate (nginx : Nginx) : PodTemplate where
  metadata := some { labels := some (labelsFor nginx.name) }
  spec := some { containers := [nginx.desiredContainer], volumes := nginx.desiredVolumes }

/-- The specification of the deployment. -/
def desiredDeploymentSpec (nginx : Nginx) : DeploymentSpec where
  replicas := some nginx.replicas
  selector := { matchLabels := some (labelsFor nginx.name) }
  template := nginx.desiredTemplate

/-- The deployment that runs the pods of an instance. -/
def desiredDeployment (nginx : Nginx) : Deployment where
  metadata := nginx.dependentMetadata nginx.deploymentName
  spec := some nginx.desiredDeploymentSpec

/-- The service through which the pods of an instance are reached inside the cluster. -/
def desiredService (nginx : Nginx) : Service where
  metadata := nginx.dependentMetadata nginx.serviceName
  spec := some {
    type := some "ClusterIP"
    selector := some (labelsFor nginx.name)
    ports := some [{ name := some httpPortName, port := httpPort,
                     targetPort := some (.text httpPortName) }] }

end Nginx

end NginxFleet
