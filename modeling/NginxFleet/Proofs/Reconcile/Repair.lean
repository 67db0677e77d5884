/-
Module: NginxFleet.Proofs.Reconcile.Repair
Layer: Proofs
Purpose: What a repair of a deployment does. It is made exactly if the parts that the instance decides
  differ, it brings them in line, and a deployment that was read stays one that can be sent.
Main exports: Deployment.InLine, Deployment.repair?_eq_some_iff, Deployment.inLine_of_repair?,
  Deployment.sendable_of_repair?
-/
import NginxFleet.Proofs.Wire.Deployment

namespace NginxFleet

namespace Deployment

/-- A deployment runs the number of pods that an instance asks for, from its template. -/
def InLine (nginx : Nginx) (deployment : Deployment) : Prop :=
  ∃ spec, deployment.spec = some spec ∧ spec.replicas = some nginx.replicas ∧
    spec.template = nginx.desiredTemplate

theorem inLine_desiredDeployment (nginx : Nginx) : nginx.desiredDeployment.InLine nginx :=
  ⟨nginx.desiredDeploymentSpec, rfl, rfl, rfl⟩

theorem InLine.received {nginx : Nginx} {deployment : Deployment}
    (inLine : deployment.InLine nginx) : deployment.received.InLine nginx :=
  inLine

/-- A deployment in line has the owned parts of the one that is wanted. -/
theorem InLine.ownedFields_eq {nginx : Nginx} {deployment : Deployment}
    (inLine : deployment.InLine nginx) :
    deployment.ownedFields = nginx.desiredDeployment.ownedFields := by
  obtain ⟨spec, found, replicas, template⟩ := inLine
  simp [ownedFields, podSpec?, found, replicas, template, Nginx.desiredDeployment,
    Nginx.desiredDeploymentSpec]

variable {existing desired repaired : Deployment} {nginx : Nginx}

theorem repair?_eq_none_iff :
    existing.repair? desired = none ↔ existing.ownedFields = desired.ownedFields := by
  unfold repair?
  split <;> simp_all

theorem repair?_eq_some_iff :
    existing.repair? desired = some repaired ↔
      existing.ownedFields ≠ desired.ownedFields ∧
        repaired = { existing with spec := repairedSpec existing.spec desired.spec } := by
  unfold repair?
  split
  · simp_all
  · simp_all [eq_comm]

theorem inLine_of_repair? (repair : existing.repair? nginx.desiredDeployment = some repaired) :
    repaired.InLine nginx := by
  obtain ⟨-, rfl⟩ := repair?_eq_some_iff.mp repair
  cases spec : existing.spec with
  | none => exact inLine_desiredDeployment nginx
  | some current => exact ⟨_, rfl, rfl, rfl⟩

theorem metadata_of_repair? (repair : existing.repair? desired = some repaired) :
    repaired.metadata = existing.metadata := by
  obtain ⟨-, rfl⟩ := repair?_eq_some_iff.mp repair
  rfl

/-- What is repaired after it was read can be sent and read again. -/
theorem sendable_of_repair? {document : Json} (reading : ofJson? document = some existing)
    (repair : existing.repair? nginx.desiredDeployment = some repaired) : repaired.Sendable := by
  obtain ⟨metadata, status⟩ := valid_of_ofJson? reading
  obtain ⟨-, rfl⟩ := repair?_eq_some_iff.mp repair
  refine ⟨metadata, status, ?_⟩
  intro spec found
  cases current : existing.spec with
  | none =>
      rw [current] at found
      cases found
      exact ⟨nginx, rfl⟩
  | some old =>
      rw [current] at found
      cases found
      exact ⟨nginx, rfl⟩

end Deployment

end NginxFleet
