/-
Module: NginxFleet.Proofs.Reconcile.Versions
Layer: Proofs
Purpose: A version that a server gives to a document is no drift: a deployment that was sent in line is
  read in line, a service can be read, and documents stored for one body are the same aside from their
  versions.
Main exports: Stamps, Deployment.ofJson?_stamped, Deployment.inLine_stamped,
  Deployment.ownedFields_stamped, Service.ofJson?_stamped, Stamps.withoutVersion_eq
-/
import NginxFleet.Object.Place
import NginxFleet.Proofs.Reconcile.Repair
import NginxFleet.Proofs.Wire.Version

namespace NginxFleet

open Json

/-- A document is stored as it came, or with a version. -/
def Stamps (_ : ObjectKey) (body document : Json) : Prop :=
  document = body ∨ ∃ version, document = body.withVersion version

/-- A deployment that is stored as it came or with a version is read as it was sent, but for the
    version and what may change on the way. -/
theorem Deployment.ofJson?_stamped {key : ObjectKey} {sent : Deployment} {document : Json}
    (sendable : sent.Sendable) (stamps : Stamps key sent.toJson.received document) :
    ∃ kept version, ofJson? document.received = some kept ∧
      kept.metadata = { sent.metadata.received.received with resourceVersion := version } ∧
      kept.spec = sent.spec ∧ kept.status = sent.status := by
  have stored := ofJson?_stored sendable
  rcases stamps with rfl | ⟨version, rfl⟩
  · exact ⟨_, sent.metadata.resourceVersion, stored, rfl, rfl, rfl⟩
  · rw [received_withVersion]
    exact ⟨_, some version, ofJson?_withVersion version stored, rfl, rfl, rfl⟩

/-- A deployment in line that is stored with a version is read in line. -/
theorem Deployment.inLine_stamped {key : ObjectKey} {nginx : Nginx} {sent : Deployment}
    {document : Json} (sendable : sent.Sendable) (inLine : sent.InLine nginx)
    (stamps : Stamps key sent.toJson.received document) :
    ∃ kept, ofJson? document.received = some kept ∧ kept.InLine nginx := by
  obtain ⟨kept, version, reading, -, spec, -⟩ := ofJson?_stamped sendable stamps
  refine ⟨kept, reading, ?_⟩
  unfold InLine
  rw [spec]
  exact inLine

theorem Deployment.ownedFields_stamped {key : ObjectKey} {nginx : Nginx} {sent : Deployment}
    {document : Json} (sendable : sent.Sendable) (inLine : sent.InLine nginx)
    (stamps : Stamps key sent.toJson.received document) :
    ∃ kept, ofJson? document.received = some kept ∧
      kept.ownedFields = nginx.desiredDeployment.ownedFields := by
  obtain ⟨kept, reading, stays⟩ := inLine_stamped sendable inLine stamps
  exact ⟨kept, reading, stays.ownedFields_eq⟩

/-- A service that is stored as it came or with a version is read as it was sent, but for the
    version. -/
theorem Service.ofJson?_stamped {key : ObjectKey} {nginx : Nginx} {document : Json}
    (stamps : Stamps key nginx.desiredService.toJson.received document) :
    ∃ kept version, ofJson? document.received = some kept ∧
      kept.metadata = { nginx.desiredService.metadata with resourceVersion := version } ∧
      kept.spec = nginx.desiredService.spec := by
  have stored : ofJson? nginx.desiredService.toJson = some nginx.desiredService :=
    ofJson?_toJson nginx.plain_desiredService
  rw [nginx.received_desiredService] at stamps
  rcases stamps with rfl | ⟨version, rfl⟩
  · rw [nginx.received_desiredService]
    exact ⟨_, none, stored, rfl, rfl⟩
  · rw [received_withVersion, nginx.received_desiredService]
    exact ⟨_, some version, ofJson?_withVersion version stored, rfl, rfl⟩

theorem Service.isSome_stamped {key : ObjectKey} {nginx : Nginx} {document : Json}
    (stamps : Stamps key nginx.desiredService.toJson.received document) :
    (ofJson? document.received).isSome := by
  obtain ⟨kept, -, reading, -⟩ := ofJson?_stamped stamps
  exact Option.isSome_of_eq_some reading

/-- Two documents stored for one body are the same, aside from versions. -/
theorem Stamps.withoutVersion_eq {key : ObjectKey} {body document other : Json}
    (first : Stamps key body document) (second : Stamps key body other) :
    document.withoutVersion = other.withoutVersion := by
  have plain : ∀ {stored : Json}, Stamps key body stored →
      stored.withoutVersion = body.withoutVersion := by
    intro stored stamps
    rcases stamps with rfl | ⟨version, rfl⟩
    · rfl
    · exact withoutVersion_withVersion version body
  rw [plain first, plain second]

end NginxFleet
