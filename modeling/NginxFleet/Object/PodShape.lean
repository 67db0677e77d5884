/-
Module: NginxFleet.Object.PodShape
Layer: Object
Purpose: The fields of Kubernetes 1.30 below pods and services, as shapes: every field that a
  container, a volume, a pod or a service may have beside those that the operator looks at.
Main exports: containerFields, volumeFields, podSpecFields, podStatusFields, serviceSpecFields,
  serviceStatus
-/
import NginxFleet.Object.Shape

namespace NginxFleet.Shape

/-- A list of texts. -/
def texts : Shape := .list .text

/-- A map from names to texts. -/
def textMap : Shape := .map .text

/-- A record with text fields only. -/
def textRecord (names : List String) : Shape := .record (names.map fun name => (name, .text))

/-!
### Metadata and selectors
-/

/-- The metadata of an object inside another one. -/
def metadata : Shape := .record [
  ("annotations", textMap), ("creationTimestamp", .time),
  ("deletionGracePeriodSeconds", .int64), ("deletionTimestamp", .time), ("finalizers", texts),
  ("generateName", .text), ("generation", .int64), ("labels", textMap),
  ("managedFields", .list (.record [
    ("apiVersion", .text), ("fieldsType", .text), ("fieldsV1", .free), ("manager", .text),
    ("operation", .text), ("subresource", .text), ("time", .time)])),
  ("name", .text), ("namespace", .text),
  ("ownerReferences", .list (.record [
    ("apiVersion", .text), ("blockOwnerDeletion", .flag), ("controller", .flag),
    ("kind", .text), ("name", .text), ("uid", .text)])),
  ("resourceVersion", .text), ("selfLink", .text), ("uid", .text)]

/-- Requirements on keys: a key, an operator and values. -/
def requirements : Shape :=
  .list (.record [("key", .text), ("operator", .text), ("values", texts)])

/-- A selector over labels. -/
def labelSelector : Shape :=
  .record [("matchExpressions", requirements), ("matchLabels", textMap)]

/-!
### Containers
-/

/-- A key of a config map or a secret. -/
def keyRef : Shape := .record [("key", .text), ("name", .text), ("optional", .flag)]

/-- A field of the pod. -/
def fieldRef : Shape := textRecord ["apiVersion", "fieldPath"]

/-- A resource of a container. -/
def resourceFieldRef : Shape := textRecord ["containerName", "divisor", "resource"]

/-- The environment of a container. -/
def environment : Shape := .list (.record [
  ("name", .text), ("value", .text),
  ("valueFrom", .record [
    ("configMapKeyRef", keyRef), ("fieldRef", fieldRef),
    ("resourceFieldRef", resourceFieldRef), ("secretKeyRef", keyRef)])])

/-- Config maps and secrets whose keys become environment variables. -/
def environmentSources : Shape := .list (.record [
  ("configMapRef", .record [("name", .text), ("optional", .flag)]), ("prefix", .text),
  ("secretRef", .record [("name", .text), ("optional", .flag)])])

/-- A command to run. -/
def execAction : Shape := .record [("command", texts)]

/-- A request to send. -/
def httpGetAction : Shape := .record [
  ("host", .text), ("httpHeaders", .list (textRecord ["name", "value"])), ("path", .text),
  ("port", .intOrText), ("scheme", .text)]

/-- A connection to open. -/
def tcpSocketAction : Shape := .record [("host", .text), ("port", .intOrText)]

/-- An action at a point of a container's life. -/
def lifecycleHandler : Shape := .record [
  ("exec", execAction), ("httpGet", httpGetAction), ("sleep", .record [("seconds", .int64)]),
  ("tcpSocket", tcpSocketAction)]

/-- A check of a container. -/
def probe : Shape := .record [
  ("exec", execAction), ("failureThreshold", .int32),
  ("grpc", .record [("port", .int32), ("service", .text)]), ("httpGet", httpGetAction),
  ("initialDelaySeconds", .int32), ("periodSeconds", .int32), ("successThreshold", .int32),
  ("tcpSocket", tcpSocketAction), ("terminationGracePeriodSeconds", .int64),
  ("timeoutSeconds", .int32)]

/-- The resources that a container asks for. -/
def resources : Shape := .record [
  ("claims", .list (textRecord ["name"])), ("limits", textMap), ("requests", textMap)]

/-- A profile by type, and its place on the node. -/
def securityProfile : Shape := textRecord ["localhostProfile", "type"]

/-- Labels of a container under a mandatory access control. -/
def seLinuxOptions : Shape := textRecord ["level", "role", "type", "user"]

/-- Options of a container on Windows. -/
def windowsOptions : Shape := .record [
  ("gmsaCredentialSpec", .text), ("gmsaCredentialSpecName", .text), ("hostProcess", .flag),
  ("runAsUserName", .text)]

/-- What a container may do. -/
def securityContext : Shape := .record [
  ("allowPrivilegeEscalation", .flag), ("appArmorProfile", securityProfile),
  ("capabilities", .record [("add", texts), ("drop", texts)]), ("privileged", .flag),
  ("procMount", .text), ("readOnlyRootFilesystem", .flag), ("runAsGroup", .int64),
  ("runAsNonRoot", .flag), ("runAsUser", .int64), ("seLinuxOptions", seLinuxOptions),
  ("seccompProfile", securityProfile), ("windowsOptions", windowsOptions)]

/-- A container port's fields beside its number and name. -/
def containerPortFields : List (String × Shape) :=
  [("hostIP", .text), ("hostPort", .int32), ("protocol", .text)]

/-- A volume mount's fields beside its name, path and read-only flag. -/
def volumeMountFields : List (String × Shape) := [
  ("mountPropagation", .text), ("recursiveReadOnly", .text), ("subPath", .text),
  ("subPathExpr", .text)]

/-- A container's fields beside its name, image, ports and volume mounts. -/
def containerFields : List (String × Shape) := [
  ("args", texts), ("command", texts), ("env", environment), ("envFrom", environmentSources),
  ("imagePullPolicy", .text),
  ("lifecycle", .record [("postStart", lifecycleHandler), ("preStop", lifecycleHandler)]),
  ("livenessProbe", probe), ("readinessProbe", probe),
  ("resizePolicy", .list (textRecord ["resourceName", "restartPolicy"])),
  ("resources", resources), ("restartPolicy", .text), ("securityContext", securityContext),
  ("startupProbe", probe), ("stdin", .flag), ("stdinOnce", .flag),
  ("terminationMessagePath", .text), ("terminationMessagePolicy", .text), ("tty", .flag),
  ("volumeDevices", .list (textRecord ["devicePath", "name"])), ("workingDir", .text)]

/-- The fields of a container that the operator looks at elsewhere, as shapes. -/
def plainContainerFields : List (String × Shape) := [
  ("image", .text), ("name", .text),
  ("ports", .list (.record
    (("containerPort", .int32) :: ("name", .text) :: containerPortFields))),
  ("volumeMounts", .list (.record
    (("mountPath", .text) :: ("name", .text) :: ("readOnly", .flag) :: volumeMountFields)))]

/-- A container that runs before the others. -/
def initContainer : Shape := .record (plainContainerFields ++ containerFields)

/-- A container added to a running pod. -/
def ephemeralContainer : Shape :=
  .record (("targetContainerName", .text) :: plainContainerFields ++ containerFields)

/-!
### Volumes
-/

/-- A reference to an object by its name. -/
def localReference : Shape := textRecord ["name"]

/-- The keys of a config map or a secret, and the files they become. -/
def keyToPaths : Shape := .list (.record [("key", .text), ("mode", .int32), ("path", .text)])

/-- The files of a volume that describes the pod. -/
def downwardItems : Shape := .list (.record [
  ("fieldRef", fieldRef), ("mode", .int32), ("path", .text),
  ("resourceFieldRef", resourceFieldRef)])

/-- A config map volume's fields beside the name. -/
def configMapSourceFields : List (String × Shape) :=
  [("defaultMode", .int32), ("items", keyToPaths), ("optional", .flag)]

/-- A claim on storage. -/
def volumeClaimSpec : Shape := .record [
  ("accessModes", texts), ("dataSource", textRecord ["apiGroup", "kind", "name"]),
  ("dataSourceRef", textRecord ["apiGroup", "kind", "name", "namespace"]),
  ("resources", .record [("limits", textMap), ("requests", textMap)]),
  ("selector", labelSelector), ("storageClassName", .text),
  ("volumeAttributesClassName", .text), ("volumeMode", .text), ("volumeName", .text)]

/-- One of several sources of one volume. -/
def volumeProjection : Shape := .record [
  ("clusterTrustBundle", .record [
    ("labelSelector", labelSelector), ("name", .text), ("optional", .flag), ("path", .text),
    ("signerName", .text)]),
  ("configMap", .record [("items", keyToPaths), ("name", .text), ("optional", .flag)]),
  ("downwardAPI", .record [("items", downwardItems)]),
  ("secret", .record [("items", keyToPaths), ("name", .text), ("optional", .flag)]),
  ("serviceAccountToken", .record [
    ("audience", .text), ("expirationSeconds", .int64), ("path", .text)])]

/-- A volume's fields beside its name and config map. -/
def volumeFields : List (String × Shape) := [
  ("awsElasticBlockStore", .record [
    ("fsType", .text), ("partition", .int32), ("readOnly", .flag), ("volumeID", .text)]),
  ("azureDisk", .record [
    ("cachingMode", .text), ("diskName", .text), ("diskURI", .text), ("fsType", .text),
    ("kind", .text), ("readOnly", .flag)]),
  ("azureFile", .record [("readOnly", .flag), ("secretName", .text), ("shareName", .text)]),
  ("cephfs", .record [
    ("monitors", texts), ("path", .text), ("readOnly", .flag), ("secretFile", .text),
    ("secretRef", localReference), ("user", .text)]),
  ("cinder", .record [
    ("fsType", .text), ("readOnly", .flag), ("secretRef", localReference), ("volumeID", .text)]),
  ("csi", .record [
    ("driver", .text), ("fsType", .text), ("nodePublishSecretRef", localReference),
    ("readOnly", .flag), ("volumeAttributes", textMap)]),
  ("downwardAPI", .record [("defaultMode", .int32), ("items", downwardItems)]),
  ("emptyDir", textRecord ["medium", "sizeLimit"]),
  ("ephemeral", .record [
    ("volumeClaimTemplate", .record [("metadata", metadata), ("spec", volumeClaimSpec)])]),
  ("fc", .record [
    ("fsType", .text), ("lun", .int32), ("readOnly", .flag), ("targetWWNs", texts),
    ("wwids", texts)]),
  ("flexVolume", .record [
    ("driver", .text), ("fsType", .text), ("options", textMap), ("readOnly", .flag),
    ("secretRef", localReference)]),
  ("flocker", textRecord ["datasetName", "datasetUUID"]),
  ("gcePersistentDisk", .record [
    ("fsType", .text), ("partition", .int32), ("pdName", .text), ("readOnly", .flag)]),
  ("gitRepo", textRecord ["directory", "repository", "revision"]),
  ("glusterfs", .record [("endpoints", .text), ("path", .text), ("readOnly", .flag)]),
  ("hostPath", textRecord ["path", "type"]),
  ("iscsi", .record [
    ("chapAuthDiscovery", .flag), ("chapAuthSession", .flag), ("fsType", .text),
    ("initiatorName", .text), ("iqn", .text), ("iscsiInterface", .text), ("lun", .int32),
    ("portals", texts), ("readOnly", .flag), ("secretRef", localReference),
    ("targetPortal", .text)]),
  ("nfs", .record [("path", .text), ("readOnly", .flag), ("server", .text)]),
  ("persistentVolumeClaim", .record [("claimName", .text), ("readOnly", .flag)]),
  ("photonPersistentDisk", textRecord ["fsType", "pdID"]),
  ("portworxVolume", .record [("fsType", .text), ("readOnly", .flag), ("volumeID", .text)]),
  ("projected", .record [("defaultMode", .int32), ("sources", .list volumeProjection)]),
  ("quobyte", .record [
    ("group", .text), ("readOnly", .flag), ("registry", .text), ("tenant", .text),
    ("user", .text), ("volume", .text)]),
  ("rbd", .record [
    ("fsType", .text), ("image", .text), ("keyring", .text), ("monitors", texts),
    ("pool", .text), ("readOnly", .flag), ("secretRef", localReference), ("user", .text)]),
  ("scaleIO", .record [
    ("fsType", .text), ("gateway", .text), ("protectionDomain", .text), ("readOnly", .flag),
    ("secretRef", localReference), ("sslEnabled", .flag), ("storageMode", .text),
    ("storagePool", .text), ("system", .text), ("volumeName", .text)]),
  ("secret", .record [
    ("defaultMode", .int32), ("items", keyToPaths), ("optional", .flag), ("secretName", .text)]),
  ("storageos", .record [
    ("fsType", .text), ("readOnly", .flag), ("secretRef", localReference),
    ("volumeName", .text), ("volumeNamespace", .text)]),
  ("vsphereVolume",
    textRecord ["fsType", "storagePolicyID", "storagePolicyName", "volumePath"])]

/-!
### Pods
-/

/-- A condition on nodes. -/
def nodeSelectorTerm : Shape :=
  .record [("matchExpressions", requirements), ("matchFields", requirements)]

/-- A condition on the pods beside which a pod may run. -/
def podAffinityTerm : Shape := .record [
  ("labelSelector", labelSelector), ("matchLabelKeys", texts), ("mismatchLabelKeys", texts),
  ("namespaceSelector", labelSelector), ("namespaces", texts), ("topologyKey", .text)]

/-- Conditions on the pods beside which a pod may or should run. -/
def podAffinity : Shape := .record [
  ("preferredDuringSchedulingIgnoredDuringExecution",
    .list (.record [("podAffinityTerm", podAffinityTerm), ("weight", .int32)])),
  ("requiredDuringSchedulingIgnoredDuringExecution", .list podAffinityTerm)]

/-- Where a pod may run. -/
def affinity : Shape := .record [
  ("nodeAffinity", .record [
    ("preferredDuringSchedulingIgnoredDuringExecution",
      .list (.record [("preference", nodeSelectorTerm), ("weight", .int32)])),
    ("requiredDuringSchedulingIgnoredDuringExecution",
      .record [("nodeSelectorTerms", .list nodeSelectorTerm)])]),
  ("podAffinity", podAffinity), ("podAntiAffinity", podAffinity)]

/-- What all containers of a pod may do. -/
def podSecurityContext : Shape := .record [
  ("appArmorProfile", securityProfile), ("fsGroup", .int64), ("fsGroupChangePolicy", .text),
  ("runAsGroup", .int64), ("runAsNonRoot", .flag), ("runAsUser", .int64),
  ("seLinuxOptions", seLinuxOptions), ("seccompProfile", securityProfile),
  ("supplementalGroups", .list .int64), ("sysctls", .list (textRecord ["name", "value"])),
  ("windowsOptions", windowsOptions)]

/-- A pod specification's fields beside its containers and volumes. -/
def podSpecFields : List (String × Shape) := [
  ("activeDeadlineSeconds", .int64), ("affinity", affinity),
  ("automountServiceAccountToken", .flag),
  ("dnsConfig", .record [
    ("nameservers", texts), ("options", .list (textRecord ["name", "value"])),
    ("searches", texts)]),
  ("dnsPolicy", .text), ("enableServiceLinks", .flag),
  ("ephemeralContainers", .list ephemeralContainer),
  ("hostAliases", .list (.record [("hostnames", texts), ("ip", .text)])), ("hostIPC", .flag),
  ("hostNetwork", .flag), ("hostPID", .flag), ("hostUsers", .flag), ("hostname", .text),
  ("imagePullSecrets", .list localReference), ("initContainers", .list initContainer),
  ("nodeName", .text), ("nodeSelector", textMap), ("os", textRecord ["name"]),
  ("overhead", textMap), ("preemptionPolicy", .text), ("priority", .int32),
  ("priorityClassName", .text), ("readinessGates", .list (textRecord ["conditionType"])),
  ("resourceClaims", .list (.record [
    ("name", .text),
    ("source", textRecord ["resourceClaimName", "resourceClaimTemplateName"])])),
  ("restartPolicy", .text), ("runtimeClassName", .text), ("schedulerName", .text),
  ("schedulingGates", .list (textRecord ["name"])), ("securityContext", podSecurityContext),
  ("serviceAccount", .text), ("serviceAccountName", .text), ("setHostnameAsFQDN", .flag),
  ("shareProcessNamespace", .flag), ("subdomain", .text),
  ("terminationGracePeriodSeconds", .int64),
  ("tolerations", .list (.record [
    ("effect", .text), ("key", .text), ("operator", .text), ("tolerationSeconds", .int64),
    ("value", .text)])),
  ("topologySpreadConstraints", .list (.record [
    ("labelSelector", labelSelector), ("matchLabelKeys", texts), ("maxSkew", .int32),
    ("minDomains", .int32), ("nodeAffinityPolicy", .text), ("nodeTaintsPolicy", .text),
    ("topologyKey", .text), ("whenUnsatisfiable", .text)]))]

/-- The state of a container. -/
def containerState : Shape := .record [
  ("running", .record [("startedAt", .time)]),
  ("terminated", .record [
    ("containerID", .text), ("exitCode", .int32), ("finishedAt", .time), ("message", .text),
    ("reason", .text), ("signal", .int32), ("startedAt", .time)]),
  ("waiting", textRecord ["message", "reason"])]

/-- The states of containers of one kind. -/
def containerStatuses : Shape := .list (.record [
  ("allocatedResources", textMap), ("containerID", .text), ("image", .text),
  ("imageID", .text), ("lastState", containerState), ("name", .text), ("ready", .flag),
  ("resources", resources), ("restartCount", .int32), ("started", .flag),
  ("state", containerState),
  ("volumeMounts", .list (.record [
    ("mountPath", .text), ("name", .text), ("readOnly", .flag), ("recursiveReadOnly", .text)]))])

/-- A pod status's fields beside the pod's address. -/
def podStatusFields : List (String × Shape) := [
  ("conditions", .list (.record [
    ("lastProbeTime", .time), ("lastTransitionTime", .time), ("message", .text),
    ("reason", .text), ("status", .text), ("type", .text)])),
  ("containerStatuses", containerStatuses), ("ephemeralContainerStatuses", containerStatuses),
  ("hostIP", .text), ("hostIPs", .list (textRecord ["ip"])),
  ("initContainerStatuses", containerStatuses), ("message", .text),
  ("nominatedNodeName", .text), ("phase", .text), ("podIPs", .list (textRecord ["ip"])),
  ("qosClass", .text), ("reason", .text), ("resize", .text),
  ("resourceClaimStatuses", .list (textRecord ["name", "resourceClaimName"])),
  ("startTime", .time)]

/-!
### Services
-/

/-- A service port's fields beside its number, name and target. -/
def servicePortFields : List (String × Shape) :=
  [("appProtocol", .text), ("nodePort", .int32), ("protocol", .text)]

/-- A service specification's fields beside its type, selector and ports. -/
def serviceSpecFields : List (String × Shape) := [
  ("allocateLoadBalancerNodePorts", .flag), ("clusterIP", .text), ("clusterIPs", texts),
  ("externalIPs", texts), ("externalName", .text), ("externalTrafficPolicy", .text),
  ("healthCheckNodePort", .int32), ("internalTrafficPolicy", .text), ("ipFamilies", texts),
  ("ipFamilyPolicy", .text), ("loadBalancerClass", .text), ("loadBalancerIP", .text),
  ("loadBalancerSourceRanges", texts), ("publishNotReadyAddresses", .flag),
  ("sessionAffinity", .text),
  ("sessionAffinityConfig", .record [("clientIP", .record [("timeoutSeconds", .int32)])]),
  ("trafficDistribution", .text)]

/-- A condition in the form that all kinds of objects may use. It says when it last changed. -/
def condition : Shape := .recordOf [("lastTransitionTime", .time)] [
  ("message", .text), ("observedGeneration", .int64), ("reason", .text), ("status", .text),
  ("type", .text)]

/-- The status of a service. -/
def serviceStatus : Shape := .record [
  ("conditions", .list condition),
  ("loadBalancer", .record [
    ("ingress", .list (.record [
      ("hostname", .text), ("ip", .text), ("ipMode", .text),
      ("ports", .list (.record [
        ("error", .text), ("port", .int32), ("protocol", .text)]))]))])]

end NginxFleet.Shape
