/-
Module: NginxFleet.Proofs.Wire.Instance
Layer: Proofs
Purpose: Instances survive the wire. The document that is written for an instance is read as this
  instance, in which what is not set stays apart from what is set to a default; on the way only the
  numbers in the fields that a manager set may change. All instances that were read are of this kind.
Main exports: Json.strictMembers_record, Nginx.Valid, Nginx.ofJson?_toJson, Nginx.received,
  Nginx.received_toJson, Nginx.valid_of_ofJson?
-/
import NginxFleet.Proofs.Wire.Version

namespace NginxFleet

open Json

namespace Json

theorem length_occurrences_setMembers {fields : List (String × Option Json)}
    (distinct : (fields.map Prod.fst).Nodup) (key : String) :
    (occurrences key (setMembers fields)).length ≤ 1 := by
  induction fields with
  | nil => simp
  | cons field rest ih =>
      obtain ⟨name, value⟩ := field
      obtain ⟨unknown, later⟩ := List.nodup_cons.mp distinct
      rw [occurrences_setMembers_cons]
      by_cases same : name = key
      · have none_ : occurrences key (setMembers rest) = [] :=
          occurrences_eq_nil fun found => unknown (same ▸ mem_keys_setMembers found)
        cases value <;> simp [same, none_]
      · simpa [same] using ih later

/-- A record with different keys is a strict record. -/
theorem strictMembers_record {fields : List (String × Option Json)}
    (distinct : (fields.map Prod.fst).Nodup) (names : List String) (least : Nat) :
    strictMembers names least (record fields) = some (setMembers fields) := by
  simp [strictMembers, record, length_occurrences_setMembers distinct]

end Json

theorem ConfigRef.ofJson?_toJson (ref : ConfigRef) : ofJson? ref.toJson = some ref := by
  simp [ofJson?, toJson, strictMembers_record, required_single, occurrences_setMembers_cons]

theorem ConfigRef.received_toJson (ref : ConfigRef) : ref.toJson.received = ref.toJson := by
  simp [toJson]

theorem NginxSpec.ofJson?_toJson (spec : NginxSpec) : ofJson? spec.toJson = some spec := by
  have config : readLast ConfigRef.ofJson? (spec.config.map ConfigRef.toJson).toList =
      some spec.config :=
    readLast_record rfl fun ref _ => ConfigRef.ofJson?_toJson ref
  simp [ofJson?, toJson, strictMembers_record, optional_eq_readLast, occurrences_setMembers_cons,
    config]

theorem NginxSpec.received_toJson (spec : NginxSpec) : spec.toJson.received = spec.toJson := by
  simp [toJson, Function.comp_def, ConfigRef.received_toJson]

namespace Nginx

/-- An instance whose metadata can be read back. -/
def Valid (nginx : Nginx) : Prop := nginx.metadata.Valid

/-- The instance that is read in the text of an instance. -/
def received (nginx : Nginx) : Nginx :=
  { nginx with metadata := nginx.metadata.received }

theorem Valid.received {nginx : Nginx} (valid : nginx.Valid) : nginx.received.Valid :=
  ObjectMeta.Valid.received valid

theorem ofJson?_toJson {nginx : Nginx} (valid : nginx.Valid) : ofJson? nginx.toJson = some nginx := by
  have metadata := ObjectMeta.ofJson?_toJson valid
  have status : readLast NginxStatus.ofJson? (nginx.status.map NginxStatus.toJson).toList =
      some nginx.status :=
    readLast_record rfl fun status _ => NginxStatus.ofJson?_toJson status
  simp [ofJson?, toJson, strictMembers_record, required_single, optional_eq_readLast,
    occurrences_setMembers_cons, metadata, NginxSpec.ofJson?_toJson, status]

theorem received_toJson (nginx : Nginx) : nginx.toJson.received = nginx.received.toJson := by
  simp [toJson, received, Function.comp_def, ObjectMeta.received_toJson,
    NginxSpec.received_toJson, NginxStatus.received_toJson]

theorem valid_of_ofJson? {document : Json} {nginx : Nginx}
    (reading : ofJson? document = some nginx) : nginx.Valid := by
  simp only [ofJson?, Option.bind_eq_bind, Option.bind_eq_some_iff] at reading
  obtain ⟨members, -, metadata, required, _, -, _, -, made⟩ := reading
  cases made
  obtain ⟨written, -, read⟩ := last_of_required required
  exact ObjectMeta.valid_of_ofJson? read

end Nginx

end NginxFleet
