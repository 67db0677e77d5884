/-
Module: NginxFleet.Proofs.Wire.Version
Layer: Proofs
Purpose: The version that a server gives to an object when it stores it is one member of its metadata.
  A reader of the stored object finds what it would have found without the version, and the version;
  and two documents that were given versions are the same documents aside from them.
Main exports: Json.withVersion, Json.withoutVersion, Json.withoutVersion_withVersion,
  Deployment.ofJson?_withVersion, Service.ofJson?_withVersion,
  Deployment.metadataText?_resourceVersion, Nginx.metadataText?_resourceVersion,
  Nginx.ofJson?_withVersion, Nginx.ofJson?_withStatus, Nginx.ofJson?_recorded
-/
import NginxFleet.Nginx.Wire
import NginxFleet.Object.Document
import NginxFleet.Proofs.Wire.Service

namespace NginxFleet

namespace Json

/-- The members of the metadata of a document, none if it has no metadata. -/
def metadataMembers (document : Json) : List (String × Json) :=
  ((document.member? "metadata").getD .null).membersOrNone

/-- A document with a version in its metadata. -/
def withVersion (version : String) (document : Json) : Json :=
  setMember "metadata"
    (.obj (withKey "resourceVersion" (.str version) document.metadataMembers)) document

/-- A document without the version in its metadata. -/
def withoutVersion (document : Json) : Json :=
  setMember "metadata" (.obj (withoutKey "resourceVersion" document.metadataMembers)) document

theorem withoutKey_withKey (key : String) (value : Json) (members : List (String × Json)) :
    withoutKey key (withKey key value members) = withoutKey key members := by
  simp [withKey, withoutKey, List.filter_append]

theorem withKey_withKey (key : String) (first second : Json) (members : List (String × Json)) :
    withKey key second (withKey key first members) = withKey key second members := by
  rw [withKey, withoutKey_withKey, ← withKey]

theorem setMember_setMember (key : String) (first second document : Json) :
    setMember key second (setMember key first document) = setMember key second document := by
  cases document <;> simp [setMember, withKey_withKey]

theorem member?_withKey (key : String) (value : Json) (members : List (String × Json)) :
    (Json.obj (withKey key value members)).member? key = some value := by
  simp [member?, occurrences_withKey]

theorem metadataMembers_withVersion (version : String) (members : List (String × Json)) :
    ((Json.obj members).withVersion version).metadataMembers =
      withKey "resourceVersion" (.str version) (Json.obj members).metadataMembers := by
  simp [withVersion, metadataMembers, setMember, member?_withKey, membersOrNone]

/-- Of two versions that a document is given the second counts. -/
theorem withVersion_withVersion (first second : String) (document : Json) :
    (document.withVersion first).withVersion second = document.withVersion second := by
  cases document with
  | obj members =>
      rw [withVersion, metadataMembers_withVersion, withKey_withKey]
      exact setMember_setMember _ _ _ _
  | _ => rfl

/-- Aside from its version, a document is what it was before it was given one. -/
@[simp] theorem withoutVersion_withVersion (version : String) (document : Json) :
    (document.withVersion version).withoutVersion = document.withoutVersion := by
  cases document with
  | obj members =>
      unfold withoutVersion
      rw [metadataMembers_withVersion, withoutKey_withKey]
      unfold withVersion
      rw [setMember_setMember]
  | _ => rfl

theorem metadataMembers_received (document : Json) :
    document.received.metadataMembers = membersReceived document.metadataMembers := by
  cases document with
  | obj members =>
      simp only [metadataMembers, received, member?, occurrences_membersReceived]
      rw [List.getLast?_map]
      cases (occurrences "metadata" members).getLast? with
      | none => rfl
      | some value => cases value <;> rfl
  | _ => rfl

theorem received_withVersion (version : String) (document : Json) :
    (document.withVersion version).received = document.received.withVersion version := by
  unfold withVersion
  rw [received_setMember, metadataMembers_received, received, membersReceived_withKey]
  rfl

end Json

open Json

/-- Metadata with a version are read as without it, but for the version. -/
theorem ObjectMeta.ofJson?_withKey {members : List (String × Json)} {metadata : ObjectMeta}
    (version : String) (reading : ofJson? (.obj members) = some metadata) :
    ofJson? (.obj (withKey "resourceVersion" (.str version) members)) =
      some { metadata with resourceVersion := some version } := by
  have reads := ofJson?_obj_iff.mp reading
  have stamped : optional readText "resourceVersion"
      (withKey "resourceVersion" (.str version) members) = some (some version) :=
    optional_withKey_self rfl _ _
  have kept : ∀ {α : Type} {read : Json → Option α} {key : String} {value : Option α},
      key ≠ "resourceVersion" → optional read key members = some value →
        optional read key (withKey "resourceVersion" (.str version) members) = some value :=
    fun other found => (optional_withKey_of_ne _ other _ _).trans found
  exact ofJson?_obj_iff.mpr {
    annotations := kept (by decide) reads.annotations
    creationTimestamp := kept (by decide) reads.creationTimestamp
    deletionGracePeriodSeconds := kept (by decide) reads.deletionGracePeriodSeconds
    deletionTimestamp := kept (by decide) reads.deletionTimestamp
    finalizers := kept (by decide) reads.finalizers
    generateName := kept (by decide) reads.generateName
    generation := kept (by decide) reads.generation
    labels := kept (by decide) reads.labels
    managedFields := kept (by decide) reads.managedFields
    name := kept (by decide) reads.name
    namespaceName := kept (by decide) reads.namespaceName
    ownerReferences := kept (by decide) reads.ownerReferences
    resourceVersion := stamped
    selfLink := kept (by decide) reads.selfLink
    uid := kept (by decide) reads.uid }

/-- The metadata of a document with a version are read as those of the document. -/
theorem ObjectMeta.ofJson?_metadataMembers {members : List (String × Json)}
    {metadata : ObjectMeta} (version : String)
    (reading : orElse ofJson? {} "metadata" members = some metadata) :
    ofJson? (.obj (withKey "resourceVersion" (.str version) (Json.obj members).metadataMembers)) =
      some { metadata with resourceVersion := some version } := by
  obtain ⟨value, optional, rfl⟩ := Option.map_eq_some_iff.mp reading
  have empty : ofJson? (.obj []) = some {} := rfl
  cases last : (occurrences "metadata" members).getLast? with
  | none =>
      cases optional_of_last_none optional last
      have given : (Json.obj members).metadataMembers = [] := by
        simp [metadataMembers, member?, last, membersOrNone]
      rw [given]
      exact ofJson?_withKey version empty
  | some document =>
      have read := last_of_optional optional last
      have given : (Json.obj members).metadataMembers = document.membersOrNone := by
        simp [metadataMembers, member?, last]
      rw [given]
      cases document with
      | null =>
          cases read
          exact ofJson?_withKey version empty
      | obj fields =>
          obtain ⟨plain, found, rfl⟩ := Option.map_eq_some_iff.mp read
          exact ofJson?_withKey version found
      | _ => cases read

/-!
### Objects with a version

A version changes one member of an object only, which a reader of another member does not see.
-/

/-- Of an object of a kind, the metadata are read with the version, and any other member as before. -/
theorem identified_withVersion {apiVersion kind : String} {document : Json}
    {known : List (String × Json)} {metadata : ObjectMeta} (version : String)
    (identity : identified apiVersion kind document = some known)
    (found : orElse ObjectMeta.ofJson? {} "metadata" known = some metadata) :
    ∃ stamped, identified apiVersion kind (document.withVersion version) = some stamped ∧
      orElse ObjectMeta.ofJson? {} "metadata" stamped =
        some { metadata with resourceVersion := some version } ∧
      ∀ {α : Type} (read : Json → Option α) (key : String), key ≠ "metadata" →
        optional read key stamped = optional read key known := by
  cases document with
  | obj members =>
      obtain ⟨rfl, -⟩ := identified_eq_some_iff.mp identity
      have stamped := ObjectMeta.ofJson?_metadataMembers version found
      refine ⟨_, identified_withKey (by decide) (by decide) _ identity, ?_, ?_⟩
      · exact orElse_withKey_self (readNullable_of_some rfl stamped) _ _
      · exact fun read key other => optional_withKey_of_ne read other _ _
  | _ => cases identity

/-- A deployment with a version. -/
def Deployment.withVersion (version : String) (deployment : Deployment) : Deployment :=
  { deployment with metadata := { deployment.metadata with resourceVersion := some version } }

theorem Deployment.ofJson?_withVersion {document : Json} {deployment : Deployment}
    (version : String) (reading : ofJson? document = some deployment) :
    ofJson? (document.withVersion version) = some (deployment.withVersion version) := by
  unfold ofJson? at reading ⊢
  simp only [Option.bind_eq_bind, Option.bind_eq_some_iff] at reading
  obtain ⟨known, identity, metadata, found, spec, specified, status, reported, made⟩ := reading
  cases made
  obtain ⟨stamped, again, versioned, kept⟩ := identified_withVersion version identity found
  simp [again, versioned, kept, specified, reported, Deployment.withVersion]

/-- A deployment whose status is set to an empty one is read with it. -/
theorem Deployment.ofJson?_withStatus {members : List (String × Json)} {deployment : Deployment}
    (reading : ofJson? (.obj members) = some deployment) :
    ofJson? (.obj (withKey "status" (.obj []) members)) =
      some { deployment with status := some {} } := by
  unfold ofJson? at reading ⊢
  simp only [Option.bind_eq_bind, Option.bind_eq_some_iff] at reading
  obtain ⟨known, identity, metadata, found, spec, specified, status, reported, made⟩ := reading
  cases made
  obtain ⟨rfl, -⟩ := identified_eq_some_iff.mp identity
  have empty : optional DeploymentStatus.ofJson? "status"
      (withKey "status" (.obj []) known) = some (some {}) := optional_withKey_self rfl _ _
  rw [identified_withKey (by decide) (by decide) _ identity]
  unfold orElse at found ⊢
  simp [optional_withKey_of_ne, found, specified, empty]

/-- A service with a version. -/
def Service.withVersion (version : String) (service : Service) : Service :=
  { service with metadata := { service.metadata with resourceVersion := some version } }

theorem Service.ofJson?_withVersion {document : Json} {service : Service} (version : String)
    (reading : ofJson? document = some service) :
    ofJson? (document.withVersion version) = some (service.withVersion version) := by
  unfold ofJson? at reading ⊢
  simp only [Option.bind_eq_bind, Option.bind_eq_some_iff] at reading
  obtain ⟨known, identity, metadata, found, spec, specified, status, reported, made⟩ := reading
  cases made
  obtain ⟨stamped, again, versioned, kept⟩ := identified_withVersion version identity found
  simp [again, versioned, kept, specified, reported, Service.withVersion]

/-!
### What a server sees in a document

A server looks at the name and the version in the metadata of what it is sent.
-/

theorem Deployment.metadataText?_toJson (key : String) (deployment : Deployment) :
    deployment.toJson.metadataText? key = (deployment.metadata.toJson.member? key).bind readText := by
  simp [metadataText?, member?, toJson, record, occurrences_setMembers_cons]

theorem Service.metadataText?_toJson (key : String) (service : Service) :
    service.toJson.metadataText? key = (service.metadata.toJson.member? key).bind readText := by
  simp [metadataText?, member?, toJson, record, occurrences_setMembers_cons]

theorem ObjectMeta.name_toJson (metadata : ObjectMeta) :
    (metadata.toJson.member? "name").bind readText = metadata.name := by
  cases name : metadata.name <;>
    simp [member?, toJson, record, occurrences_setMembers_cons, name]

theorem ObjectMeta.resourceVersion_toJson (metadata : ObjectMeta) :
    (metadata.toJson.member? "resourceVersion").bind readText = metadata.resourceVersion := by
  cases version : metadata.resourceVersion <;>
    simp [member?, toJson, record, occurrences_setMembers_cons, version]

theorem metadataText?_received (key : String) (document : Json) :
    document.received.metadataText? key = document.metadataText? key := by
  have member : ∀ (name : String) (part : Json),
      part.received.member? name = (part.member? name).map Json.received := by
    intro name part
    cases part with
    | obj members => simp only [received, member?, occurrences_membersReceived, List.getLast?_map]
    | _ => rfl
  have text : ∀ part : Json, readText part.received = readText part := by
    intro part
    cases part <;> rfl
  unfold metadataText?
  rw [member]
  cases document.member? "metadata" with
  | none => rfl
  | some metadata =>
      simp only [Option.map_some, Option.bind_some, member]
      cases metadata.member? key with
      | none => rfl
      | some part => exact text part

theorem member?_obj (key : String) (members : List (String × Json)) :
    (Json.obj members).member? key = (occurrences key members).getLast? := rfl

/-- A document with a version names it. -/
theorem metadataText?_withVersion (version : String) (members : List (String × Json)) :
    ((Json.obj members).withVersion version).metadataText? "resourceVersion" = some version := by
  simp [withVersion, setMember, metadataText?, member?_withKey, readText]

/-- What names a version is an object. -/
theorem obj_of_metadataText? {key text : String} {document : Json}
    (named : document.metadataText? key = some text) : ∃ members, document = .obj members := by
  cases document with
  | obj members => exact ⟨members, rfl⟩
  | _ => cases named

theorem readText_of_optional {key : String} {members : List (String × Json)}
    {value : Option String} (reading : optional readText key members = some value) :
    ((Json.obj members).member? key).bind readText = value := by
  rw [member?_obj]
  cases last : (occurrences key members).getLast? with
  | none =>
      rw [optional_of_last_none reading last]
      rfl
  | some document =>
      have read := last_of_optional reading last
      cases document with
      | null | str text =>
          cases read
          rfl
      | _ => cases read

theorem ObjectMeta.resourceVersion_of_ofJson? {document : Json} {metadata : ObjectMeta}
    (reading : ofJson? document = some metadata) :
    (document.member? "resourceVersion").bind readText = metadata.resourceVersion := by
  obtain ⟨members, rfl, reads⟩ := obj_of_ofJson? reading
  exact readText_of_optional reads.resourceVersion

/-- The version that a server sees in a deployment is the one that is read in it. -/
theorem Deployment.metadataText?_resourceVersion {document : Json} {deployment : Deployment}
    (reading : ofJson? document = some deployment) :
    document.metadataText? "resourceVersion" = deployment.metadata.resourceVersion := by
  unfold ofJson? at reading
  simp only [Option.bind_eq_bind, Option.bind_eq_some_iff] at reading
  obtain ⟨members, identity, metadata, found, _, _, _, _, made⟩ := reading
  cases made
  cases document with
  | obj fields =>
      obtain ⟨rfl, -⟩ := identified_eq_some_iff.mp identity
      obtain ⟨value, optional, rfl⟩ := Option.map_eq_some_iff.mp found
      unfold metadataText?
      rw [member?_obj]
      cases last : (occurrences "metadata" members).getLast? with
      | none =>
          rw [optional_of_last_none optional last]
          rfl
      | some part =>
          have read := last_of_optional optional last
          cases part with
          | null =>
              cases read
              rfl
          | obj parts =>
              obtain ⟨plain, same, rfl⟩ := Option.map_eq_some_iff.mp read
              exact ObjectMeta.resourceVersion_of_ofJson? same
          | _ => cases read
  | _ => cases identity

/-!
### Instances with a version or a status
-/

theorem Nginx.metadataText?_toJson (key : String) (nginx : Nginx) :
    nginx.toJson.metadataText? key = (nginx.metadata.toJson.member? key).bind readText := by
  simp [metadataText?, member?, toJson, record, occurrences_setMembers_cons]

theorem Nginx.ofJson?_obj {members : List (String × Json)} {nginx : Nginx} :
    ofJson? (.obj members) = some nginx ↔
      (∀ name ∈ ["metadata", "spec", "status"], (occurrences name members).length ≤ 1) ∧
        required ObjectMeta.ofJson? "metadata" members = some nginx.metadata ∧
        required NginxSpec.ofJson? "spec" members = some nginx.spec ∧
        optional NginxStatus.ofJson? "status" members = some nginx.status := by
  unfold ofJson? strictMembers
  simp only [Option.bind_eq_bind, Option.bind_eq_some_iff]
  constructor
  · rintro ⟨known, once, metadata, found, spec, specified, status, reported, made⟩
    cases made
    split at once
    · rename_i fits
      cases once
      exact ⟨by simpa using fits, found, specified, reported⟩
    · cases once
  · rintro ⟨once, found, specified, reported⟩
    refine ⟨members, ?_, _, found, _, specified, _, reported, rfl⟩
    rw [if_pos]
    simpa using once

/-- The version that a server sees in an instance is the one that is read in it. -/
theorem Nginx.metadataText?_resourceVersion {members : List (String × Json)} {nginx : Nginx}
    (reading : ofJson? (.obj members) = some nginx) :
    (Json.obj members).metadataText? "resourceVersion" = nginx.metadata.resourceVersion := by
  obtain ⟨-, metadata, -, -⟩ := ofJson?_obj.mp reading
  obtain ⟨document, last, read⟩ := last_of_required metadata
  rw [metadataText?, member?_obj, last]
  exact ObjectMeta.resourceVersion_of_ofJson? read

theorem required_withKey_self {α : Type} {read : Json → Option α} (key : String) (value : Json)
    (members : List (String × Json)) :
    required read key (withKey key value members) = read value := by
  unfold required
  rw [occurrences_withKey, if_pos rfl, readAll_single]
  cases read value <;> rfl

theorem required_withKey_of_ne {α : Type} (read : Json → Option α) {key other : String}
    (different : other ≠ key) (value : Json) (members : List (String × Json)) :
    required read other (withKey key value members) = required read other members := by
  unfold required
  rw [occurrences_withKey, if_neg different]

theorem length_occurrences_withKey {key other : String} {value : Json}
    {members : List (String × Json)} (once : (occurrences other members).length ≤ 1) :
    (occurrences other (withKey key value members)).length ≤ 1 := by
  rw [occurrences_withKey]
  split
  · simp
  · exact once

/-- An instance with a version. -/
def Nginx.withVersion (version : String) (nginx : Nginx) : Nginx :=
  { nginx with metadata := { nginx.metadata with resourceVersion := some version } }

theorem Nginx.ofJson?_withVersion {members : List (String × Json)} {nginx : Nginx}
    (version : String) (reading : ofJson? (.obj members) = some nginx) :
    ofJson? ((Json.obj members).withVersion version) = some (nginx.withVersion version) := by
  obtain ⟨once, metadata, spec, status⟩ := ofJson?_obj.mp reading
  obtain ⟨document, last, read⟩ := last_of_required metadata
  refine ofJson?_obj.mpr ⟨?_, ?_, ?_, ?_⟩
  · exact fun name known => length_occurrences_withKey (once name known)
  · rw [required_withKey_self]
    have given : (Json.obj members).metadataMembers = document.membersOrNone := by
      simp [metadataMembers, member?, last]
    rw [given]
    cases document with
    | obj fields => exact ObjectMeta.ofJson?_withKey version read
    | _ => cases read
  · rw [required_withKey_of_ne _ (by decide)]
    exact spec
  · rw [optional_withKey_of_ne _ (by decide)]
    exact status

/-- An instance whose status is set is read with this status. -/
theorem Nginx.ofJson?_withStatus {members : List (String × Json)} {nginx : Nginx}
    {document : Json} {status : NginxStatus} (reading : ofJson? (.obj members) = some nginx)
    (given : NginxStatus.ofJson? document = some status) (present : document ≠ .null) :
    ofJson? (.obj (withKey "status" document members)) =
      some { nginx with status := some status } := by
  obtain ⟨once, metadata, spec, -⟩ := ofJson?_obj.mp reading
  refine ofJson?_obj.mpr ⟨?_, ?_, ?_, ?_⟩
  · exact fun name known => length_occurrences_withKey (once name known)
  · rw [required_withKey_of_ne _ (by decide)]
    exact metadata
  · rw [required_withKey_of_ne _ (by decide)]
    exact spec
  · exact optional_withKey_self (readNullable_of_present present given) _ _

/-- The pods that are recorded can be read again. -/
theorem NginxStatus.ofJson?_toJson (status : NginxStatus) :
    ofJson? status.toJson = some status := by
  have pods : readList PodEntry.ofJson? (Json.ofList PodEntry.toJson status.pods) =
      some status.pods := readList_ofList fun _ _ => rfl
  simp [ofJson?, toJson, record, setMembers, strictMembers, occurrences, orMissing, pods]

theorem NginxStatus.received_toJson (status : NginxStatus) :
    status.toJson.received = status.toJson := by
  have entry : ∀ pod : PodEntry, pod.toJson.received = pod.toJson := fun _ => rfl
  simp [toJson, entry]

/-- An instance that is stored with its status set is read with this status. -/
theorem Nginx.ofJson?_recorded {members : List (String × Json)} {nginx : Nginx}
    (reading : ofJson? (Json.obj members).received = some nginx) (status : NginxStatus) :
    ofJson? (setMember "status" status.toJson (.obj members)).received =
      some { nginx with status := some status } := by
  rw [received_setMember, NginxStatus.received_toJson]
  exact ofJson?_withStatus reading (NginxStatus.ofJson?_toJson status)
    (by simp [NginxStatus.toJson, record])

end NginxFleet
