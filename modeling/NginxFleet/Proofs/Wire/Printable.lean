/-
Module: NginxFleet.Proofs.Wire.Printable
Layer: Proofs
Purpose: What is written for the types of the operator can be printed and parsed. An instance is nested
  no deeper than the document in which it was read: only the fields that managers set have a depth
  of their own, and they stand at the same place in both. The deployment and the service that are
  built for an instance have no such fields.
Main exports: Nginx.printable_of_ofJson?, Nginx.printable_desiredDeployment,
  Nginx.printable_desiredService
-/
import NginxFleet.Proofs.Json.Fits
import NginxFleet.Proofs.Wire.Instance
import NginxFleet.Proofs.Wire.Service

namespace NginxFleet

open Json

variable {room : Nat}

/-!
### Members of a document that fits
-/

theorem Json.Fits.of_openMembers {document : Json} {members : List (String × Json)}
    (fits : Fits (room + 1) document) (opened : openMembers document = some members)
    {key : String} {value : Json} (among : value ∈ occurrences key members) : Fits room value := by
  cases document with
  | obj all =>
      cases opened
      exact fits.of_mem_obj (mem_of_mem_occurrences among)
  | _ => cases opened

theorem Json.Fits.of_strictMembers {document : Json} {members : List (String × Json)}
    {names : List String} {least : Nat} (fits : Fits (room + 1) document)
    (opened : strictMembers names least document = some members) {key : String} {value : Json}
    (among : value ∈ occurrences key members) : Fits room value := by
  have member := mem_of_mem_occurrences among
  unfold strictMembers at opened
  split at opened
  · split at opened
    · cases opened
      exact fits.of_mem_obj member
    · cases opened
  · split at opened
    · cases opened
      exact fits.of_mem_arr (List.of_mem_zip member).2
    · cases opened
  · cases opened

/-!
### Metadata
-/

theorem printable_ofTime (t : Timestamp) : Printable room (ofTime t) := printable_str _

theorem OwnerReference.printable_toJson (owner : OwnerReference) :
    Printable (room + 1) owner.toJson := by
  refine printable_record ?_
  simp

theorem ManagedFields.printable_toJson {fields : ManagedFields}
    (free : PrintableIfSet room fields.fieldsV1) : Printable (room + 1) fields.toJson := by
  refine printable_record ?_
  simpa [printable_ofTime] using free

/-- The fields that a manager set fit where they were read. -/
theorem ManagedFields.printable_of_ofJson? {document : Json} {fields : ManagedFields}
    (fits : Fits (room + 1) document) (reading : ofJson? document = some fields) :
    Printable (room + 1) fields.toJson := by
  have form := (valid_of_ofJson? reading).fieldsV1
  refine printable_toJson fun value given => ⟨?_, (form value given).readable⟩
  simp only [ofJson?, Option.bind_eq_bind, Option.bind_eq_some_iff] at reading
  obtain ⟨members, opened, _, -, _, -, free, fieldsV1, _, -, _, -, _, -, _, -, made⟩ := reading
  cases made
  cases given
  obtain ⟨source, among, -, read⟩ := mem_of_optional fieldsV1
  unfold readFree at read
  split at read
  · cases read
    exact (fits.of_openMembers opened among).canonical
  · cases read

namespace ObjectMeta

theorem printable_toJson {metadata : ObjectMeta}
    (managed : ∀ entries ∈ metadata.managedFields, ∀ entry ∈ entries,
      Printable (room + 1) entry.toJson) : Printable (room + 3) metadata.toJson := by
  have texts : ∀ items : List String, Printable (room + 2) (Json.ofList .str items) := fun _ =>
    printable_ofList fun item _ => printable_str item
  have entries : ∀ entries ∈ metadata.managedFields,
      Printable (room + 2) (Json.ofList ManagedFields.toJson entries) := fun entries given =>
    printable_ofList (managed entries given)
  have owners : ∀ owners : List OwnerReference,
      Printable (room + 2) (Json.ofList OwnerReference.toJson owners) := fun _ =>
    printable_ofList fun owner _ => owner.printable_toJson
  refine printable_record ?_
  simpa [printable_ofTime, texts, owners] using entries

theorem printable_of_ofJson? {document : Json} {metadata : ObjectMeta}
    (fits : Fits (room + 3) document) (reading : ofJson? document = some metadata) :
    Printable (room + 3) metadata.toJson := by
  obtain ⟨members, rfl, reads⟩ := obj_of_ofJson? reading
  refine printable_toJson fun entries given entry member => ?_
  have managed := reads.managedFields
  rw [given] at managed
  obtain ⟨source, among, -, read⟩ := mem_of_optional managed
  cases source with
  | arr items =>
      obtain ⟨item, inside, read⟩ := mem_of_readAll read member
      have list := fits.of_mem_obj (mem_of_mem_occurrences among)
      exact ManagedFields.printable_of_ofJson? (list.of_mem_arr inside) read
  | _ => cases read

end ObjectMeta

/-!
### Instances
-/

theorem ConfigRef.printable_toJson (ref : ConfigRef) : Printable (room + 1) ref.toJson := by
  refine printable_record ?_
  simp

theorem NginxSpec.printable_toJson (spec : NginxSpec) : Printable (room + 2) spec.toJson := by
  refine printable_record ?_
  simp [ConfigRef.printable_toJson]

theorem PodEntry.printable_toJson (pod : PodEntry) : Printable (room + 1) pod.toJson := by
  refine printable_record ?_
  simp

theorem NginxStatus.printable_toJson (status : NginxStatus) :
    Printable (room + 3) status.toJson := by
  have pods : Printable (room + 2) (Json.ofList PodEntry.toJson status.pods) :=
    printable_ofList fun pod _ => pod.printable_toJson
  refine printable_record ?_
  simpa using pods

/-- An instance can be printed where the document could in which it was read. -/
theorem Nginx.printable_of_ofJson? {document : Json} {nginx : Nginx} (fits : Fits (room + 4) document)
    (reading : ofJson? document = some nginx) : Printable (room + 4) nginx.toJson := by
  simp only [ofJson?, Option.bind_eq_bind, Option.bind_eq_some_iff] at reading
  obtain ⟨members, opened, metadata, required, _, -, _, -, made⟩ := reading
  cases made
  obtain ⟨source, last, read⟩ := last_of_required required
  have among : source ∈ occurrences "metadata" members := List.mem_of_getLast? last
  have written := ObjectMeta.printable_of_ofJson? (fits.of_strictMembers opened among) read
  refine printable_record ?_
  simpa [NginxSpec.printable_toJson, NginxStatus.printable_toJson] using written

/-!
### Parts in which nothing is carried along
-/

theorem recordWith_nil (fields : List (String × Option Json)) :
    recordWith fields [] = record fields := by
  simp [recordWith, record]

theorem ContainerPort.printable_toJson {port : ContainerPort} (plain : port.extra = []) :
    Printable (room + 1) port.toJson := by
  rw [toJson, plain, recordWith_nil]
  refine printable_record ?_
  simp

theorem VolumeMount.printable_toJson {mount : VolumeMount} (plain : mount.extra = []) :
    Printable (room + 1) mount.toJson := by
  rw [toJson, plain, recordWith_nil]
  refine printable_record ?_
  simp

theorem Container.printable_toJson {container : Container} (plain : container.Plain) :
    Printable (room + 3) container.toJson := by
  have ports : ∀ ports ∈ container.ports,
      Printable (room + 2) (Json.ofList ContainerPort.toJson ports) := fun ports given =>
    printable_ofList fun port member => port.printable_toJson (plain.ports ports given port member)
  have mounts : ∀ mounts ∈ container.volumeMounts,
      Printable (room + 2) (Json.ofList VolumeMount.toJson mounts) := fun mounts given =>
    printable_ofList fun mount member =>
      mount.printable_toJson (plain.volumeMounts mounts given mount member)
  rw [toJson, plain.extra, recordWith_nil]
  refine printable_record ?_
  simpa using ⟨ports, mounts⟩

theorem ConfigMapSource.printable_toJson {source : ConfigMapSource} (plain : source.extra = []) :
    Printable (room + 1) source.toJson := by
  rw [toJson, plain, recordWith_nil]
  refine printable_record ?_
  simp

theorem Volume.printable_toJson {volume : Volume} (plain : volume.Plain) :
    Printable (room + 2) volume.toJson := by
  have source : ∀ source ∈ volume.configMap, Printable (room + 1) source.toJson :=
    fun source given => source.printable_toJson (plain.configMap source given)
  rw [toJson, plain.extra, recordWith_nil]
  refine printable_record ?_
  simpa using source

theorem PodSpec.printable_toJson {spec : PodSpec} (plain : spec.Plain) :
    Printable (room + 5) spec.toJson := by
  have containers : Printable (room + 4) (Json.ofList Container.toJson spec.containers) :=
    printable_ofList fun container member =>
      container.printable_toJson (plain.containers container member)
  have volumes : ∀ volumes ∈ spec.volumes,
      Printable (room + 4) (Json.ofList Volume.toJson volumes) := fun volumes given =>
    printable_ofList fun volume member =>
      volume.printable_toJson (plain.volumes volumes given volume member)
  rw [toJson, plain.extra, recordWith_nil]
  refine printable_record ?_
  simpa using ⟨containers, volumes⟩

theorem ServicePort.printable_toJson {port : ServicePort} (plain : port.extra = []) :
    Printable (room + 1) port.toJson := by
  have target : ∀ target : IntOrText, Printable room target.toJson := fun target => by
    cases target with
    | int value => exact printable_ofInt32 value
    | text value => exact printable_str value
  rw [toJson, plain, recordWith_nil]
  refine printable_record ?_
  simp [target]

theorem ServiceSpec.printable_toJson {spec : ServiceSpec} (plain : spec.Plain) :
    Printable (room + 3) spec.toJson := by
  have ports : ∀ ports ∈ spec.ports,
      Printable (room + 2) (Json.ofList ServicePort.toJson ports) := fun ports given =>
    printable_ofList fun port member => port.printable_toJson (plain.ports ports given port member)
  rw [toJson, plain.extra, recordWith_nil]
  refine printable_record ?_
  simpa using ports

/-!
### Objects that are built for an instance
-/

namespace Nginx

theorem printable_dependentMetadata (nginx : Nginx) (name : String) :
    Printable (room + 3) (nginx.dependentMetadata name).toJson :=
  ObjectMeta.printable_toJson (by simp [dependentMetadata])

theorem printable_desiredTemplate (nginx : Nginx) :
    Printable (room + 6) nginx.desiredTemplate.toJson := by
  have plain := nginx.plain_desiredTemplate
  have metadata : ∀ metadata ∈ nginx.desiredTemplate.metadata,
      Printable (room + 5) metadata.toJson := by
    intro metadata given
    cases given
    exact ObjectMeta.printable_toJson (by simp)
  have spec : ∀ spec ∈ nginx.desiredTemplate.spec, Printable (room + 5) spec.toJson :=
    fun spec given => spec.printable_toJson (plain.spec spec given)
  refine printable_record ?_
  simpa using ⟨metadata, spec⟩

theorem printable_desiredDeployment (nginx : Nginx) :
    Printable (room + 8) nginx.desiredDeployment.toJson := by
  have metadata : Printable (room + 7) nginx.desiredDeployment.metadata.toJson :=
    nginx.printable_dependentMetadata _
  have selector : Printable (room + 6) nginx.desiredDeploymentSpec.selector.toJson := by
    refine printable_record ?_
    simp [desiredDeploymentSpec]
  have spec : Printable (room + 7) nginx.desiredDeploymentSpec.toJson := by
    refine printable_record ?_
    simpa [desiredDeploymentSpec] using ⟨selector, nginx.printable_desiredTemplate⟩
  refine printable_record ?_
  simpa [desiredDeployment] using ⟨metadata, spec⟩

theorem printable_desiredService (nginx : Nginx) :
    Printable (room + 4) nginx.desiredService.toJson := by
  have plain := nginx.plain_desiredService
  have metadata : Printable (room + 3) nginx.desiredService.metadata.toJson :=
    nginx.printable_dependentMetadata _
  have spec : ∀ spec ∈ nginx.desiredService.spec, Printable (room + 3) spec.toJson :=
    fun spec given => spec.printable_toJson (plain.spec spec given)
  refine printable_record ?_
  simpa [plain.status] using ⟨metadata, spec⟩

end Nginx

end NginxFleet
