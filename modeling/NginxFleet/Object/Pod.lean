/-
Module: NginxFleet.Object.Pod
Layer: Object
Purpose: Pods as the operator sees them: their metadata and address. Their other fields must have
  the right types and are then dropped, since the operator only reads pods.
Main exports: Pod, Pod.ofJson?, Pod.listOfJson?
-/
import NginxFleet.Object.PodTemplate

namespace NginxFleet

open Json

/-- What the cluster reports of a pod. -/
structure PodStatus where
  podIP : Option String := none
deriving DecidableEq, Repr, Inhabited

namespace PodStatus

/-- Reads a status. -/
def ofJson? (document : Json) : Option PodStatus := do
  let m ← openMembers document
  let podIP ← optional readText "podIP" m
  let _ ← Shape.normalMembers? Shape.podStatusFields m
  some { podIP }

end PodStatus

/-- A pod. -/
structure Pod where
  metadata : ObjectMeta := {}
  status : Option PodStatus := none
deriving DecidableEq, Repr, Inhabited

namespace Pod

/-- Reads a pod. -/
def ofJson? (document : Json) : Option Pod := do
  let m ← identified "v1" "Pod" document
  let metadata ← orElse ObjectMeta.ofJson? {} "metadata" m
  let _ ← optional PodSpec.ofJson? "spec" m
  let status ← optional PodStatus.ofJson? "status" m
  some { metadata, status }

/-- What a list says about itself. -/
def listMetadata : Shape := .record [
  ("continue", .text), ("remainingItemCount", .int64), ("resourceVersion", .text),
  ("selfLink", .text)]

/-- The members of a list that have a meaning. -/
def listFields : List String := ["metadata", "items"]

/-- Reads a list of pods: an object with items, which may be null, and metadata, which may be missing
    but not null. Neither may be given twice. The other members of the list, unlike those of its
    pods, must be readable although they are ignored. -/
def listOfJson? : Json → Option (List Pod)
  | .obj members => do
    let m ← strictMembers listFields 0 (.obj members)
    let _ ← orMissing listMetadata.normal? .null "metadata" m
    let items ← required (readNullable (readList ofJson?)) "items" m
    if membersReadable (m.filter fun member => !listFields.contains member.1) then
      some (items.getD [])
    else none
  | _ => none

end Pod

end NginxFleet
