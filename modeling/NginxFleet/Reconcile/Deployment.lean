/-
Module: NginxFleet.Reconcile.Deployment
Layer: Reconcile
Purpose: Bringing the deployment of an instance in line. The deployment is created first, since
  creating is the one call that tells reliably whether it is there; only one that is there is read,
  and only one that has drifted is replaced.
Main exports: reconcileDeployment
-/
import NginxFleet.Client.Call
import NginxFleet.Nginx.Desired
import NginxFleet.Nginx.Drift
import NginxFleet.Reconcile.Error

namespace NginxFleet

open Session

/-- What is going on while the deployment of an instance is brought in line. -/
def Nginx.deploymentActivity (nginx : Nginx) : Activity where
  name := "reconcile_deployment"
  fields := [("deployment", nginx.deploymentName)]

/-- Replaces a deployment by its repaired form. -/
def replaceDeployment (nginx : Nginx) (repaired : Deployment) :
    Session (Except OperatorError Unit) := do
  match ← replace .deployments nginx.namespaceName nginx.deploymentName repaired with
  | .ok _ =>
    log .info ("Updated deployment " ++ nginx.deploymentName)
    return .ok ()
  | .error cause =>
    log .error ("Failed to update deployment: " ++ cause.message)
    return .error (.update .deployment cause)

/-- Repairs the deployment that is already there, if it has drifted. -/
def repairDeployment (nginx : Nginx) : Session (Except OperatorError Unit) := do
  match ← fetch .deployments nginx.namespaceName nginx.deploymentName with
  | .error cause =>
    log .error ("Failed to retrieve deployment: " ++ cause.message)
    return .error (.retrieve .deployment cause)
  | .ok existing =>
    match existing.repair? nginx.desiredDeployment with
    | some repaired => replaceDeployment nginx repaired
    | none =>
      log .debug "nothing changed"
      return .ok ()

/-- Creates the deployment, or repairs the one that is already there. -/
def ensureDeployment (nginx : Nginx) : Session (Except OperatorError Unit) := do
  match ← create .deployments nginx.namespaceName nginx.desiredDeployment with
  | .ok _ =>
    log .info ("Created deployment " ++ nginx.deploymentName)
    return .ok ()
  | .error cause =>
    if cause.isAlreadyExists then
      log .debug ("Deployment " ++ nginx.deploymentName ++
        " already exists, checking for changes")
      repairDeployment nginx
    else
      log .error ("Failed to create deployment: " ++ cause.message)
      return .error (.create .deployment cause)

/-- Brings the deployment of an instance in line. -/
def reconcileDeployment (nginx : Nginx) : Session (Except OperatorError Unit) :=
  (ensureDeployment nginx).within nginx.deploymentActivity

end NginxFleet
