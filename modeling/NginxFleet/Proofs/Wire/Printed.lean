/-
Module: NginxFleet.Proofs.Wire.Printed
Layer: Proofs
Purpose: Instances survive as text. What is printed for an instance that was read is parsed as this
  instance, with what is left out apart from what is set to a default; so printing is a normal form
  of the texts that can be read. Numbers in the fields that managers set are the exception: they are
  rounded when they are parsed, and may come back as neighbours of themselves. The deployment and the
  service that are built for an instance hold no such numbers.
Main exports: Json.decode?, Nginx.ReadAs, wire_form_round_trips
-/
import NginxFleet.Proofs.Json.Building
import NginxFleet.Proofs.Json.Parsed
import NginxFleet.Proofs.Wire.Printable

namespace NginxFleet

open Json

/-- The value that is read in a text. -/
def Json.decode? {α : Type} (read : Json → Option α) (text : String) : Option α :=
  (parseMarked? text).bind read

/-- What is printed is read in the document that is received. -/
theorem Json.decode?_text {α : Type} (read : Json → Option α) {document : Json}
    (printable : Printable nestingLimit document) :
    decode? read document.text = read document.received := by
  rw [decode?, parseMarked?_text printable]
  rfl

namespace Nginx

/-- What is read when an instance is sent: the instance itself, but for numbers in the fields that
    managers set. -/
structure ReadAs (sent reading : Nginx) : Prop where
  kept : reading = { sent with
    metadata := { sent.metadata with managedFields := reading.metadata.managedFields } }
  managed : reading.metadata.managedFields =
    sent.metadata.managedFields.map fun entries => entries.map ManagedFields.received
  exact : (∀ x ∈ sent.metadata.managedNumbers, x.received = x) → reading = sent

theorem readAs_received (sent : Nginx) : sent.ReadAs sent.received where
  kept := rfl
  managed := rfl
  exact := by
    intro keeps
    rw [received, ObjectMeta.received_of_managedNumbers keeps]

/-- An instance that was read in a text is received from the text that is printed for it. -/
theorem decode?_text {text : String} {nginx : Nginx} (reading : decode? ofJson? text = some nginx) :
    decode? ofJson? nginx.toJson.text = some nginx.received := by
  obtain ⟨document, parsed, read⟩ := Option.bind_eq_some_iff.mp reading
  have fits : Fits (123 + 4) document := fits_of_parseMarked? parsed
  rw [Json.decode?_text ofJson? (printable_of_ofJson? fits read), received_toJson]
  exact ofJson?_toJson (valid_of_ofJson? read).received

theorem decode?_desiredDeployment (nginx : Nginx) :
    decode? Deployment.ofJson? nginx.desiredDeployment.toJson.text = some nginx.desiredDeployment := by
  have printable : Printable (119 + 8) nginx.desiredDeployment.toJson :=
    nginx.printable_desiredDeployment
  rw [Json.decode?_text Deployment.ofJson? printable]
  exact Deployment.ofJson?_received nginx.sendable_desiredDeployment

theorem decode?_desiredService (nginx : Nginx) :
    decode? Service.ofJson? nginx.desiredService.toJson.text = some nginx.desiredService := by
  have printable : Printable (123 + 4) nginx.desiredService.toJson := nginx.printable_desiredService
  rw [Json.decode?_text Service.ofJson? printable, nginx.received_desiredService]
  exact Service.ofJson?_toJson nginx.plain_desiredService

end Nginx

/-- Whatever the text in which an instance was read, the instance is read in the document written for
    it, and, but for numbers in the fields that managers set, in the text printed for it. What is
    printed then is the same document with the numbers as they were read, and the same text if these
    are read as they are written. The deployment and the service that are built for an instance are
    read as they are. -/
theorem wire_form_round_trips :
    (∀ (text : String) (nginx : Nginx), decode? Nginx.ofJson? text = some nginx →
      Nginx.ofJson? nginx.toJson = some nginx ∧
      ∃ reading, decode? Nginx.ofJson? nginx.toJson.text = some reading ∧ nginx.ReadAs reading ∧
        reading.toJson = nginx.toJson.received ∧
        ((∀ x ∈ nginx.metadata.managedNumbers, x.received = x) →
          reading.toJson.text = nginx.toJson.text)) ∧
    ∀ nginx : Nginx,
      decode? Deployment.ofJson? nginx.desiredDeployment.toJson.text =
        some nginx.desiredDeployment ∧
      decode? Service.ofJson? nginx.desiredService.toJson.text = some nginx.desiredService := by
  constructor
  · intro text nginx reading
    obtain ⟨document, -, read⟩ := Option.bind_eq_some_iff.mp reading
    refine ⟨Nginx.ofJson?_toJson (Nginx.valid_of_ofJson? read), nginx.received,
      Nginx.decode?_text reading, nginx.readAs_received, nginx.received_toJson.symm, ?_⟩
    intro keeps
    rw [nginx.readAs_received.exact keeps]
  · exact fun nginx => ⟨nginx.decode?_desiredDeployment, nginx.decode?_desiredService⟩

/-- A text with an unknown member, a member that is null, a time at an offset, and a number in the
    fields that a manager set. -/
def weighedText : String :=
  "\x7b\"metadata\":\x7b\"creationTimestamp\":\"2024-05-01T12:00:00+02:00\"," ++
    "\"managedFields\":[\x7b\"fieldsV1\":\x7b\"f:weight\":1.726798474225294e-96\x7d\x7d]\x7d," ++
    "\"more\":[null],\"spec\":\x7b\"config\":null,\"image\":\"\"\x7d,\"status\":\x7b\x7d\x7d"

/-- The instance that is read there. -/
def weighedNginx : Nginx where
  metadata := {
    creationTimestamp := some ⟨⟨2024, 5, 1⟩, 10, 0, 0⟩
    managedFields := some [{
      fieldsV1 := some (.obj [("f:weight", .float ⟨false, 8305581565106149, -371⟩)]) }] }
  spec := { image := some "" }
  status := some {}

theorem decode?_weighedText : decode? Nginx.ofJson? weighedText = some weighedNginx := by
  decide +kernel

/-- The instance is read in what is printed for it, with its image set but empty and its status set but
    without pods. -/
theorem wire_form_round_trips_weighed :
    decode? Nginx.ofJson? weighedText = some weighedNginx ∧
      ∃ reading, decode? Nginx.ofJson? weighedNginx.toJson.text = some reading ∧
        weighedNginx.ReadAs reading := by
  obtain ⟨-, reading, read, same, -⟩ :=
    wire_form_round_trips.1 weighedText weighedNginx decode?_weighedText
  exact ⟨decode?_weighedText, reading, read, same⟩

/-- Printing is no normal form there: the number becomes a neighbour of itself, and is printed as
    such. -/
theorem printing_rounds_managed_numbers :
    decode? Nginx.ofJson? weighedText = some weighedNginx ∧
      ∃ reading, decode? Nginx.ofJson? weighedNginx.toJson.text = some reading ∧
        reading ≠ weighedNginx ∧ reading.toJson.text ≠ weighedNginx.toJson.text := by
  refine ⟨decode?_weighedText, weighedNginx.received, Nginx.decode?_text decode?_weighedText, ?_⟩
  decide +kernel

end NginxFleet
