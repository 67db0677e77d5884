/-
Module: NginxFleet.Reconcile.Service
Layer: Reconcile
Purpose: Bringing the service of an instance in line. A service is created once; one that is already
  there is left alone.
Main exports: reconcileService
-/
import NginxFleet.Client.Call
import NginxFleet.Nginx.Desired
import NginxFleet.Reconcile.Error

namespace NginxFleet

open Session

/-- What is going on while the service of an instance is brought in line. -/
def Nginx.serviceActivity (nginx : Nginx) : Activity where
  name := "reconcile_service"
  fields := [("service", nginx.serviceName)]

/-- Creates the service, unless it is already there. -/
def ensureService (nginx : Nginx) : Session (Except OperatorError Unit) := do
  match ← create .services nginx.namespaceName nginx.desiredService with
  | .ok _ =>
    log .info ("Created service " ++ nginx.serviceName)
    return .ok ()
  | .error cause =>
    if cause.isAlreadyExists then
      return .ok ()
    else
      log .error ("Failed to create service: " ++ cause.message)
      return .error (.create .service cause)

/-- Brings the service of an instance in line. -/
def reconcileService (nginx : Nginx) : Session (Except OperatorError Unit) :=
  (ensureService nginx).within nginx.serviceActivity

end NginxFleet
