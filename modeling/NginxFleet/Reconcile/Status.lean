/-
Module: NginxFleet.Reconcile.Status
Layer: Reconcile
Purpose: Recording the live pods of an instance in its status. The pods seen are put in order, and
  the status is written only if they differ from those recorded, in whatever order these stand; so a
  list that comes back in another order is no change.
Main exports: observedPods, podsChanged, refreshStatus
-/
import NginxFleet.Client.Call
import NginxFleet.Nginx.Desired
import NginxFleet.Reconcile.Error

namespace NginxFleet

open Session

/-- The entry for a pod; one that has no address yet has an empty one. -/
def Pod.entry (pod : Pod) : PodEntry where
  name := pod.metadata.displayName
  podIP := (pod.status.bind PodStatus.podIP).getD ""

/-- The entries for the pods that were seen, in order. -/
def observedPods (pods : List Pod) : List PodEntry :=
  PodEntry.sorted (pods.map Pod.entry)

/-- Whether the pods seen, which are in order, differ from those recorded, which need not be. -/
def podsChanged (observed stored : List PodEntry) : Bool :=
  observed != PodEntry.sorted stored

/-- The instance with these pods recorded. -/
def Nginx.recording (nginx : Nginx) (pods : List PodEntry) : Nginx :=
  { nginx with status := some { pods } }

/-- Writes the status of an instance. -/
def recordPods (nginx : Nginx) (pods : List PodEntry) : Session (Except OperatorError Unit) := do
  match ← replaceStatus .nginxes nginx.namespaceName nginx.name (nginx.recording pods) with
  | .ok _ => return .ok ()
  | .error cause => return .error (.updateStatus cause)

/-- Records the live pods of an instance, if they are not the recorded ones. -/
def observeStatus (nginx : Nginx) : Session (Except OperatorError Unit) := do
  match ← listPods nginx.namespaceName (labelSelector nginx.name) with
  | .error cause => return .error (.listPods cause)
  | .ok pods =>
    let observed := observedPods pods
    if podsChanged observed nginx.storedPods then
      log .info ("Pod list changed, recording " ++ toString observed.length ++ " pods")
      recordPods nginx observed
    else
      log .debug ("Pod list unchanged, " ++ toString observed.length ++ " pods")
      return .ok ()

/-- Brings the status of an instance in line; nothing is done for one that was deleted. -/
def refreshStatus (nginx : Nginx) (deleted : Bool) : Session (Except OperatorError Unit) :=
  within ⟨"refresh_status", []⟩ <|
    if deleted then do
      log .debug "nginx deleted, skipping status update"
      return .ok ()
    else observeStatus nginx

end NginxFleet
