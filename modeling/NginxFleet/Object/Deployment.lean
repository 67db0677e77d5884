/-
Module: NginxFleet.Object.Deployment
Layer: Object
Purpose: Deployments: metadata, the specification with the template of the pods, and the status that
  the cluster reports. All fields but those inside the template survive reading and writing.
Main exports: LabelSelector, DeploymentSpec, DeploymentStatus, Deployment, Deployment.ofJson?,
  Deployment.toJson
-/
import NginxFleet.Object.PodTemplate

namespace NginxFleet

open Json

/-- A requirement on one label. -/
structure SelectorRequirement where
  key : String
  operator : String
  values : Option (List String) := none
deriving DecidableEq, Repr, Inhabited

namespace SelectorRequirement

/-- Reads a requirement. -/
def ofJson? (document : Json) : Option SelectorRequirement := do
  let m ← openMembers document
  let key ← orElse readText "" "key" m
  let operator ← orElse readText "" "operator" m
  let values ← optional (readList readText) "values" m
  some { key, operator, values }

/-- Writes a requirement. -/
def toJson (requirement : SelectorRequirement) : Json :=
  record [
    ("key", some (.str requirement.key)),
    ("operator", some (.str requirement.operator)),
    ("values", requirement.values.map (Json.ofList .str))]

end SelectorRequirement

/-- Which pods belong to a deployment. -/
structure LabelSelector where
  matchExpressions : Option (List SelectorRequirement) := none
  matchLabels : Option Labels := none
deriving DecidableEq, Repr, Inhabited

namespace LabelSelector

/-- Reads a selector. -/
def ofJson? (document : Json) : Option LabelSelector := do
  let m ← openMembers document
  let matchExpressions ← optional (readList SelectorRequirement.ofJson?) "matchExpressions" m
  let matchLabels ← optional (readMap readText) "matchLabels" m
  some { matchExpressions, matchLabels }

/-- Writes a selector. -/
def toJson (selector : LabelSelector) : Json :=
  record [
    ("matchExpressions",
      selector.matchExpressions.map (Json.ofList SelectorRequirement.toJson)),
    ("matchLabels", selector.matchLabels.map ofTextMap)]

end LabelSelector

/-- How many pods may be added or missing while pods are replaced. -/
structure RollingUpdate where
  maxSurge : Option IntOrText := none
  maxUnavailable : Option IntOrText := none
deriving DecidableEq, Repr, Inhabited

namespace RollingUpdate

/-- Reads the limits. -/
def ofJson? (document : Json) : Option RollingUpdate := do
  let m ← openMembers document
  let maxSurge ← optional IntOrText.ofJson? "maxSurge" m
  let maxUnavailable ← optional IntOrText.ofJson? "maxUnavailable" m
  some { maxSurge, maxUnavailable }

/-- Writes the limits. -/
def toJson (update : RollingUpdate) : Json :=
  record [
    ("maxSurge", update.maxSurge.map IntOrText.toJson),
    ("maxUnavailable", update.maxUnavailable.map IntOrText.toJson)]

end RollingUpdate

/-- How pods are replaced by new ones. -/
structure DeploymentStrategy where
  rollingUpdate : Option RollingUpdate := none
  type : Option String := none
deriving DecidableEq, Repr, Inhabited

namespace DeploymentStrategy

/-- Reads a strategy. -/
def ofJson? (document : Json) : Option DeploymentStrategy := do
  let m ← openMembers document
  let rollingUpdate ← optional RollingUpdate.ofJson? "rollingUpdate" m
  let type ← optional readText "type" m
  some { rollingUpdate, type }

/-- Writes a strategy. -/
def toJson (strategy : DeploymentStrategy) : Json :=
  record [
    ("rollingUpdate", strategy.rollingUpdate.map RollingUpdate.toJson),
    ("type", strategy.type.map .str)]

end DeploymentStrategy

/-- What a deployment should be. -/
structure DeploymentSpec where
  minReadySeconds : Option Int32 := none
  paused : Option Bool := none
  progressDeadlineSeconds : Option Int32 := none
  replicas : Option Int32 := none
  revisionHistoryLimit : Option Int32 := none
  selector : LabelSelector := {}
  strategy : Option DeploymentStrategy := none
  template : PodTemplate := {}
deriving DecidableEq, Repr, Inhabited

namespace DeploymentSpec

/-- Reads a specification. -/
def ofJson? (document : Json) : Option DeploymentSpec := do
  let m ← openMembers document
  let minReadySeconds ← optional readInt32 "minReadySeconds" m
  let paused ← optional readFlag "paused" m
  let progressDeadlineSeconds ← optional readInt32 "progressDeadlineSeconds" m
  let replicas ← optional readInt32 "replicas" m
  let revisionHistoryLimit ← optional readInt32 "revisionHistoryLimit" m
  let selector ← orElse LabelSelector.ofJson? {} "selector" m
  let strategy ← optional DeploymentStrategy.ofJson? "strategy" m
  let template ← orElse PodTemplate.ofJson? {} "template" m
  some { minReadySeconds, paused, progressDeadlineSeconds, replicas, revisionHistoryLimit,
         selector, strategy, template }

/-- Writes a specification. -/
def toJson (spec : DeploymentSpec) : Json :=
  record [
    ("minReadySeconds", spec.minReadySeconds.map ofInt32),
    ("paused", spec.paused.map .bool),
    ("progressDeadlineSeconds", spec.progressDeadlineSeconds.map ofInt32),
    ("replicas", spec.replicas.map ofInt32),
    ("revisionHistoryLimit", spec.revisionHistoryLimit.map ofInt32),
    ("selector", some spec.selector.toJson),
    ("strategy", spec.strategy.map DeploymentStrategy.toJson),
    ("template", some spec.template.toJson)]

end DeploymentSpec

/-- A condition that the cluster reports of a deployment. -/
structure DeploymentCondition where
  lastTransitionTime : Option Timestamp := none
  lastUpdateTime : Option Timestamp := none
  message : Option String := none
  reason : Option String := none
  status : String := ""
  type : String := ""
deriving DecidableEq, Repr, Inhabited

namespace DeploymentCondition

/-- Reads a condition. -/
def ofJson? (document : Json) : Option DeploymentCondition := do
  let m ← openMembers document
  let lastTransitionTime ← optional readTime "lastTransitionTime" m
  let lastUpdateTime ← optional readTime "lastUpdateTime" m
  let message ← optional readText "message" m
  let reason ← optional readText "reason" m
  let status ← orElse readText "" "status" m
  let type ← orElse readText "" "type" m
  some { lastTransitionTime, lastUpdateTime, message, reason, status, type }

/-- Writes a condition. -/
def toJson (condition : DeploymentCondition) : Json :=
  record [
    ("lastTransitionTime", condition.lastTransitionTime.map ofTime),
    ("lastUpdateTime", condition.lastUpdateTime.map ofTime),
    ("message", condition.message.map .str),
    ("reason", condition.reason.map .str),
    ("status", some (.str condition.status)),
    ("type", some (.str condition.type))]

end DeploymentCondition

/-- What the cluster reports of a deployment. -/
structure DeploymentStatus where
  availableReplicas : Option Int32 := none
  collisionCount : Option Int32 := none
  conditions : Option (List DeploymentCondition) := none
  observedGeneration : Option Int64 := none
  readyReplicas : Option Int32 := none
  replicas : Option Int32 := none
  unavailableReplicas : Option Int32 := none
  updatedReplicas : Option Int32 := none
deriving DecidableEq, Repr, Inhabited

namespace DeploymentStatus

/-- Reads a status. -/
def ofJson? (document : Json) : Option DeploymentStatus := do
  let m ← openMembers document
  let availableReplicas ← optional readInt32 "availableReplicas" m
  let collisionCount ← optional readInt32 "collisionCount" m
  let conditions ← optional (readList DeploymentCondition.ofJson?) "conditions" m
  let observedGeneration ← optional readInt64 "observedGeneration" m
  let readyReplicas ← optional readInt32 "readyReplicas" m
  let replicas ← optional readInt32 "replicas" m
  let unavailableReplicas ← optional readInt32 "unavailableReplicas" m
  let updatedReplicas ← optional readInt32 "updatedReplicas" m
  some { availableReplicas, collisionCount, conditions, observedGeneration, readyReplicas,
         replicas, unavailableReplicas, updatedReplicas }

/-- Writes a status. -/
def toJson (status : DeploymentStatus) : Json :=
  record [
    ("availableReplicas", status.availableReplicas.map ofInt32),
    ("collisionCount", status.collisionCount.map ofInt32),
    ("conditions", status.conditions.map (Json.ofList DeploymentCondition.toJson)),
    ("observedGeneration", status.observedGeneration.map ofInt64),
    ("readyReplicas", status.readyReplicas.map ofInt32),
    ("replicas", status.replicas.map ofInt32),
    ("unavailableReplicas", status.unavailableReplicas.map ofInt32),
    ("updatedReplicas", status.updatedReplicas.map ofInt32)]

end DeploymentStatus

/-- A deployment: a number of pods made from one template. -/
structure Deployment where
  metadata : ObjectMeta := {}
  spec : Option DeploymentSpec := none
  status : Option DeploymentStatus := none
deriving DecidableEq, Repr, Inhabited

namespace Deployment

/-- The version of the interface to which deployments belong. -/
def apiVersion : String := "apps/v1"

/-- Reads a deployment. -/
def ofJson? (document : Json) : Option Deployment := do
  let m ← identified apiVersion "Deployment" document
  let metadata ← orElse ObjectMeta.ofJson? {} "metadata" m
  let spec ← optional DeploymentSpec.ofJson? "spec" m
  let status ← optional DeploymentStatus.ofJson? "status" m
  some { metadata, spec, status }

/-- Writes a deployment. -/
def toJson (deployment : Deployment) : Json :=
  record [
    ("apiVersion", some (.str apiVersion)),
    ("kind", some (.str "Deployment")),
    ("metadata", some deployment.metadata.toJson),
    ("spec", deployment.spec.map DeploymentSpec.toJson),
    ("status", deployment.status.map DeploymentStatus.toJson)]

end Deployment

end NginxFleet
