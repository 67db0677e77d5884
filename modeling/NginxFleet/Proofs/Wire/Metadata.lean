/-
Module: NginxFleet.Proofs.Wire.Metadata
Layer: Proofs
Purpose: Metadata survive the wire. The only parts that may change on the way are the fields that a
  manager set, which are kept as they come and may hold floating point numbers. All else is read back
  as it was written, provided that times are on the calendar and free values in canonical form; and
  this holds of all metadata that were read.
Main exports: ManagedFields.Valid, ObjectMeta.Valid, ObjectMeta.received, ObjectMeta.managedNumbers,
  ObjectMeta.Reads, ObjectMeta.ofJson?_obj_iff, ObjectMeta.ofJson?_toJson,
  ObjectMeta.received_toJson, ObjectMeta.valid_of_ofJson?
-/
import NginxFleet.Proofs.Wire.FreeForm
import NginxFleet.Proofs.Wire.Time

namespace NginxFleet

open Json

theorem readLast_time {value : Option Timestamp} (valid : ∀ t ∈ value, t.Valid) :
    readLast readTime (value.map ofTime).toList = some value :=
  readLast_record rfl fun t found => readTime_ofTime (valid t found)

theorem valid_of_optional_time {key : String} {members : List (String × Json)}
    {value : Option Timestamp} (reading : optional readTime key members = some value) :
    ∀ t ∈ value, t.Valid :=
  of_optional (fun _ _ _ => valid_of_readTime) reading

namespace OwnerReference

theorem received_toJson (owner : OwnerReference) : owner.toJson.received = owner.toJson := by
  simp [toJson, Function.comp_def]

theorem ofJson?_toJson (owner : OwnerReference) : ofJson? owner.toJson = some owner := by
  simp [ofJson?, toJson, record, openMembers, orElse, optional_eq_readLast,
    occurrences_setMembers_cons]

end OwnerReference

namespace ManagedFields

/-- An entry whose time is on the calendar and whose fields are in canonical form. -/
structure Valid (fields : ManagedFields) : Prop where
  time : ∀ t ∈ fields.time, t.Valid
  fieldsV1 : ∀ document ∈ fields.fieldsV1, FreeForm document

/-- The entry that is read in the text of an entry. -/
def received (fields : ManagedFields) : ManagedFields :=
  { fields with fieldsV1 := fields.fieldsV1.map Json.received }

theorem received_toJson (fields : ManagedFields) :
    fields.toJson.received = fields.received.toJson := by
  simp [toJson, received, Function.comp_def]

theorem Valid.received {fields : ManagedFields} (valid : fields.Valid) :
    fields.received.Valid where
  time := valid.time
  fieldsV1 := by
    intro document found
    obtain ⟨sent, kept, rfl⟩ := Option.map_eq_some_iff.mp found
    exact (valid.fieldsV1 sent kept).received

theorem ofJson?_toJson {fields : ManagedFields} (valid : fields.Valid) :
    ofJson? fields.toJson = some fields := by
  have free : readLast readFree fields.fieldsV1.toList = some fields.fieldsV1 := by
    cases kept : fields.fieldsV1 with
    | none => rfl
    | some document =>
        have form := valid.fieldsV1 document kept
        exact readLast_single (readNullable_of_present form.present form.readFree)
  have time := readLast_time valid.time
  simp [ofJson?, toJson, record, openMembers, optional_eq_readLast, occurrences_setMembers_cons,
    free, time]

theorem valid_of_ofJson? {document : Json} {fields : ManagedFields}
    (reading : ofJson? document = some fields) : fields.Valid := by
  unfold ofJson? at reading
  simp only [Option.bind_eq_bind, Option.bind_eq_some_iff] at reading
  obtain ⟨_, _, _, _, _, _, free, fieldsV1, _, _, _, _, _, _, time, times, made⟩ := reading
  cases made
  exact ⟨valid_of_optional_time times,
    of_optional (fun _ _ present => FreeForm.of_readFree present) fieldsV1⟩

end ManagedFields

namespace ObjectMeta

/-- Metadata whose times are on the calendar and whose managed fields are in canonical form. -/
structure Valid (metadata : ObjectMeta) : Prop where
  creationTimestamp : ∀ t ∈ metadata.creationTimestamp, t.Valid
  deletionTimestamp : ∀ t ∈ metadata.deletionTimestamp, t.Valid
  managedFields : ∀ entries ∈ metadata.managedFields, ∀ entry ∈ entries, entry.Valid

/-- The metadata that are read in the text of metadata. -/
def received (metadata : ObjectMeta) : ObjectMeta :=
  { metadata with
    managedFields := metadata.managedFields.map fun entries => entries.map ManagedFields.received }

/-- Metadata are received as they were sent if the fields that managers set are. -/
theorem received_eq_self {metadata : ObjectMeta}
    (keeps : ∀ entries ∈ metadata.managedFields, ∀ entry ∈ entries,
      ∀ document ∈ entry.fieldsV1, document.received = document) : metadata.received = metadata := by
  have managed : metadata.managedFields.map (fun entries => entries.map ManagedFields.received) =
      metadata.managedFields := by
    refine (Option.map_congr fun entries found => ?_).trans Option.map_id'
    refine (List.map_congr_left fun entry member => ?_).trans entries.map_id'
    have fields : entry.fieldsV1.map Json.received = entry.fieldsV1 :=
      (Option.map_congr (keeps entries found entry member)).trans Option.map_id'
    rw [ManagedFields.received, fields]
  rw [received, managed]

/-- The floating point numbers in the fields that managers set. -/
def managedNumbers (metadata : ObjectMeta) : List Binary64 :=
  (metadata.managedFields.getD []).flatMap fun entry => (entry.fieldsV1.map floats).getD []

theorem received_of_managedNumbers {metadata : ObjectMeta}
    (exact_ : ∀ x ∈ metadata.managedNumbers, x.received = x) : metadata.received = metadata := by
  refine received_eq_self fun entries given entry member document kept => ?_
  refine Json.received_eq_self document fun x among => exact_ x ?_
  rw [managedNumbers, given, Option.getD_some, List.mem_flatMap]
  refine ⟨entry, member, ?_⟩
  rw [kept]
  exact among

theorem ofList_map {α β : Type} (write : β → Json) (change : α → β) (items : List α) :
    Json.ofList write (items.map change) = Json.ofList (fun item => write (change item)) items := by
  simp [Json.ofList]

theorem received_toJson (metadata : ObjectMeta) :
    metadata.toJson.received = metadata.received.toJson := by
  simp [toJson, received, Function.comp_def, ManagedFields.received_toJson, ofList_map,
    OwnerReference.received_toJson]

theorem Valid.received {metadata : ObjectMeta} (valid : metadata.Valid) :
    metadata.received.Valid where
  creationTimestamp := valid.creationTimestamp
  deletionTimestamp := valid.deletionTimestamp
  managedFields := by
    intro entries found entry member
    obtain ⟨sent, kept, rfl⟩ := Option.map_eq_some_iff.mp found
    obtain ⟨original, among, rfl⟩ := List.mem_map.mp member
    exact (valid.managedFields sent kept original among).received

/-- What is read in each member of metadata. -/
structure Reads (members : List (String × Json)) (metadata : ObjectMeta) : Prop where
  annotations : optional (readMap readText) "annotations" members = some metadata.annotations
  creationTimestamp :
    optional readTime "creationTimestamp" members = some metadata.creationTimestamp
  deletionGracePeriodSeconds : optional readInt64 "deletionGracePeriodSeconds" members =
    some metadata.deletionGracePeriodSeconds
  deletionTimestamp :
    optional readTime "deletionTimestamp" members = some metadata.deletionTimestamp
  finalizers : optional (readList readText) "finalizers" members = some metadata.finalizers
  generateName : optional readText "generateName" members = some metadata.generateName
  generation : optional readInt64 "generation" members = some metadata.generation
  labels : optional (readMap readText) "labels" members = some metadata.labels
  managedFields : optional (readList ManagedFields.ofJson?) "managedFields" members =
    some metadata.managedFields
  name : optional readText "name" members = some metadata.name
  namespaceName : optional readText "namespace" members = some metadata.namespaceName
  ownerReferences : optional (readList OwnerReference.ofJson?) "ownerReferences" members =
    some metadata.ownerReferences
  resourceVersion : optional readText "resourceVersion" members = some metadata.resourceVersion
  selfLink : optional readText "selfLink" members = some metadata.selfLink
  uid : optional readText "uid" members = some metadata.uid

/-- Metadata are read in an object, member by member. -/
theorem ofJson?_obj_iff {members : List (String × Json)} {metadata : ObjectMeta} :
    ofJson? (.obj members) = some metadata ↔ Reads members metadata := by
  constructor
  · intro reading
    obtain ⟨_, annotations, reading⟩ := Option.bind_eq_some_iff.mp reading
    obtain ⟨_, creation, reading⟩ := Option.bind_eq_some_iff.mp reading
    obtain ⟨_, grace, reading⟩ := Option.bind_eq_some_iff.mp reading
    obtain ⟨_, deletion, reading⟩ := Option.bind_eq_some_iff.mp reading
    obtain ⟨_, finalizers, reading⟩ := Option.bind_eq_some_iff.mp reading
    obtain ⟨_, generateName, reading⟩ := Option.bind_eq_some_iff.mp reading
    obtain ⟨_, generation, reading⟩ := Option.bind_eq_some_iff.mp reading
    obtain ⟨_, labels, reading⟩ := Option.bind_eq_some_iff.mp reading
    obtain ⟨_, managed, reading⟩ := Option.bind_eq_some_iff.mp reading
    obtain ⟨_, name, reading⟩ := Option.bind_eq_some_iff.mp reading
    obtain ⟨_, namespaceName, reading⟩ := Option.bind_eq_some_iff.mp reading
    obtain ⟨_, owners, reading⟩ := Option.bind_eq_some_iff.mp reading
    obtain ⟨_, version, reading⟩ := Option.bind_eq_some_iff.mp reading
    obtain ⟨_, selfLink, reading⟩ := Option.bind_eq_some_iff.mp reading
    obtain ⟨_, uid, reading⟩ := Option.bind_eq_some_iff.mp reading
    cases reading
    exact ⟨annotations, creation, grace, deletion, finalizers, generateName, generation, labels,
      managed, name, namespaceName, owners, version, selfLink, uid⟩
  · intro reads
    have found : ∀ {α β : Type} {read : Option α} {value : α} {rest : α → Option β} {result : β},
        read = some value → rest value = some result → read.bind rest = some result :=
      fun read rest => Option.bind_eq_some_iff.mpr ⟨_, read, rest⟩
    exact found reads.annotations <| found reads.creationTimestamp <|
      found reads.deletionGracePeriodSeconds <| found reads.deletionTimestamp <|
      found reads.finalizers <| found reads.generateName <| found reads.generation <|
      found reads.labels <| found reads.managedFields <| found reads.name <|
      found reads.namespaceName <| found reads.ownerReferences <| found reads.resourceVersion <|
      found reads.selfLink <| found reads.uid rfl

theorem obj_of_ofJson? {document : Json} {metadata : ObjectMeta}
    (reading : ofJson? document = some metadata) :
    ∃ members, document = .obj members ∧ Reads members metadata := by
  cases document with
  | obj members => exact ⟨members, rfl, ofJson?_obj_iff.mp reading⟩
  | _ => cases reading

theorem ofJson?_toJson {metadata : ObjectMeta} (valid : metadata.Valid) :
    ofJson? metadata.toJson = some metadata := by
  have creation := readLast_time valid.creationTimestamp
  have deletion := readLast_time valid.deletionTimestamp
  have managed : readLast (readList ManagedFields.ofJson?)
      (metadata.managedFields.map (Json.ofList ManagedFields.toJson)).toList =
        some metadata.managedFields :=
    readLast_list fun entries found entry member =>
      ManagedFields.ofJson?_toJson (valid.managedFields entries found entry member)
  have owners : readLast (readList OwnerReference.ofJson?)
      (metadata.ownerReferences.map (Json.ofList OwnerReference.toJson)).toList =
        some metadata.ownerReferences :=
    readLast_list fun _ _ owner _ => OwnerReference.ofJson?_toJson owner
  refine ofJson?_obj_iff.mpr ?_
  constructor <;>
    simp [optional_eq_readLast, occurrences_setMembers_cons, creation, deletion, managed, owners]

theorem valid_of_ofJson? {document : Json} {metadata : ObjectMeta}
    (reading : ofJson? document = some metadata) : metadata.Valid := by
  obtain ⟨members, rfl, reads⟩ := obj_of_ofJson? reading
  refine ⟨valid_of_optional_time reads.creationTimestamp,
    valid_of_optional_time reads.deletionTimestamp, ?_⟩
  have each : ∀ entries ∈ metadata.managedFields, ∀ entry ∈ entries, entry.Valid := by
    refine of_optional ?_ reads.managedFields
    intro document entries _ reading
    exact of_readList (fun _ _ => ManagedFields.valid_of_ofJson?) reading
  exact each

end ObjectMeta

end NginxFleet
