/-
Module: NginxFleet.Reconcile.Dispatch
Layer: Reconcile
Purpose: Answering a notification. Only a change of an Nginx instance leads to calls: its deployment,
  its service and its status are brought in line in this order, up to the first failure. Nothing is
  done for an instance that was deleted, since the objects built for it refer to it as their owner.
Main exports: WatchedObject, Notification, Notification.ofNginx, dispatch
-/
import NginxFleet.Reconcile.Deployment
import NginxFleet.Reconcile.Service
import NginxFleet.Reconcile.Status

namespace NginxFleet

open Session

/-- The objects whose changes are notified. -/
inductive WatchedObject where
  | nginx (value : Nginx)
  | deployment (value : Deployment)
  | service (value : Service)
  | pod (value : Pod)
deriving Repr

/-- A change of a watched object. -/
structure Notification where
  object : WatchedObject
  deleted : Bool := false
deriving Repr

/-- The notification for an instance as it was read: deleted if it is being removed. -/
def Notification.ofNginx (nginx : Nginx) : Notification where
  object := .nginx nginx
  deleted := nginx.isDeleted

/-- A session that may fail, and another one if it does not. -/
def onSuccess (first next : Session (Except OperatorError Unit)) :
    Session (Except OperatorError Unit) :=
  first.bind fun
    | .ok () => next
    | .error error => .done (.error error)

/-- Brings the objects built for an instance in line, the deployment first. -/
def reconcileDependents (nginx : Nginx) : Session (Except OperatorError Unit) :=
  onSuccess (reconcileDeployment nginx) (reconcileService nginx)

/-- What is going on while a notification for an instance is handled. -/
def Nginx.activity (nginx : Nginx) : Activity where
  name := "nginx"
  fields := [("name", nginx.name), ("namespace", nginx.namespaceName), ("kind", Nginx.kind)]

/-- Handles a change of an instance. -/
def handleNginx (nginx : Nginx) (deleted : Bool) : Session (Except OperatorError Unit) :=
  within nginx.activity <|
    if deleted then do
      log .info "object deleted"
      return .ok ()
    else do
      log .debug "Handling event for nginx"
      onSuccess (reconcileDependents nginx) (refreshStatus nginx deleted)

/-- Handles a notification. -/
def dispatch (notification : Notification) : Session (Except OperatorError Unit) :=
  match notification.object with
  | .nginx nginx => handleNginx nginx notification.deleted
  | .deployment _ | .service _ | .pod _ => do
    log .trace "Ignoring notification for non-Nginx object"
    return .ok ()

end NginxFleet
