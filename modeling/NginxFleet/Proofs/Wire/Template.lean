/-
Module: NginxFleet.Proofs.Wire.Template
Layer: Proofs
Purpose: The templates that are built for an instance survive the wire. They set none of the fields
  that are carried along unread, so their parts are read back field by field, and they hold no
  floating point numbers, so they arrive as they were sent.
Main exports: normalMembers?_of_absent, PodTemplate.Plain, PodTemplate.ofJson?_toJson,
  Nginx.ofJson?_desiredTemplate, Nginx.received_desiredTemplate
-/
import NginxFleet.Nginx.Desired
import NginxFleet.Proofs.Wire.Metadata

namespace NginxFleet

open Json

/-- Nothing is carried along of members that give no value for any of the fields. -/
theorem normalMembers?_of_absent {fields : List (String × Shape)} {members : List (String × Json)}
    (absent : ∀ field ∈ fields, occurrences field.1 members = []) :
    Shape.normalMembers? fields members = some [] := by
  induction fields with
  | nil => rfl
  | cons field rest ih =>
      obtain ⟨key, shape⟩ := field
      have missing : optional shape.normal? key members = some none :=
        optional_absent (absent (key, shape) List.mem_cons_self)
      have later := ih fun field found => absent field (List.mem_cons_of_mem _ found)
      simp [Shape.normalMembers?, missing, later, withMember]

/-- The same for a record whose fields have other keys. -/
theorem normalMembers?_setMembers {fields : List (String × Shape)} {names : List String}
    (apart : ∀ name ∈ fields.map Prod.fst, name ∉ names) {known : List (String × Option Json)}
    (keys : known.map Prod.fst = names) :
    Shape.normalMembers? fields (setMembers known) = some [] := by
  refine normalMembers?_of_absent ?_
  intro field found
  apply occurrences_eq_nil
  intro given
  exact apart field.1 (List.mem_map.mpr ⟨field, found, rfl⟩) (keys ▸ mem_keys_setMembers given)

@[simp] theorem received_recordWith (fields : List (String × Option Json)) (extra : Extra) :
    (recordWith fields extra).received =
      recordWith (fields.map fun field => (field.1, field.2.map received))
        (membersReceived extra) := by
  simp only [recordWith, received, membersReceived_append, membersReceived_setMembers]

/-!
### Parts of a template

A part is plain if nothing is carried along in it.
-/

theorem ContainerPort.ofJson?_toJson {port : ContainerPort} (plain : port.extra = []) :
    ofJson? port.toJson = some port := by
  have apart : ∀ name ∈ Shape.containerPortFields.map Prod.fst,
      name ∉ ["containerPort", "name"] := by decide
  obtain ⟨number, name, extra⟩ := port
  cases plain
  simp [ofJson?, toJson, recordWith, openMembers, orElse, optional_eq_readLast,
    occurrences_setMembers_cons, normalMembers?_setMembers apart]

theorem VolumeMount.ofJson?_toJson {mount : VolumeMount} (plain : mount.extra = []) :
    ofJson? mount.toJson = some mount := by
  have apart : ∀ name ∈ Shape.volumeMountFields.map Prod.fst,
      name ∉ ["mountPath", "name", "readOnly"] := by decide
  obtain ⟨mountPath, name, readOnly, extra⟩ := mount
  cases plain
  simp [ofJson?, toJson, recordWith, openMembers, orElse, optional_eq_readLast,
    occurrences_setMembers_cons, normalMembers?_setMembers apart]

/-- A container in which nothing is carried along, also not in its ports and mounts. -/
structure Container.Plain (container : Container) : Prop where
  extra : container.extra = []
  ports : ∀ ports ∈ container.ports, ∀ port ∈ ports, port.extra = []
  volumeMounts : ∀ mounts ∈ container.volumeMounts, ∀ mount ∈ mounts, mount.extra = []

theorem Container.ofJson?_toJson {container : Container} (plain : container.Plain) :
    ofJson? container.toJson = some container := by
  have apart : ∀ name ∈ Shape.containerFields.map Prod.fst,
      name ∉ ["name", "image", "ports", "volumeMounts"] := by decide
  have ports : readLast (readList ContainerPort.ofJson?)
      (container.ports.map (Json.ofList ContainerPort.toJson)).toList = some container.ports :=
    readLast_list fun ports found port member =>
      ContainerPort.ofJson?_toJson (plain.ports ports found port member)
  have mounts : readLast (readList VolumeMount.ofJson?)
      (container.volumeMounts.map (Json.ofList VolumeMount.toJson)).toList =
        some container.volumeMounts :=
    readLast_list fun mounts found mount member =>
      VolumeMount.ofJson?_toJson (plain.volumeMounts mounts found mount member)
  obtain ⟨name, image, portList, mountList, extra⟩ := container
  cases plain.extra
  simp [ofJson?, toJson, recordWith, openMembers, orElse, optional_eq_readLast,
    occurrences_setMembers_cons, normalMembers?_setMembers apart, ports, mounts]

theorem ConfigMapSource.ofJson?_toJson {source : ConfigMapSource} (plain : source.extra = []) :
    ofJson? source.toJson = some source := by
  have apart : ∀ name ∈ Shape.configMapSourceFields.map Prod.fst, name ∉ ["name"] := by decide
  obtain ⟨name, extra⟩ := source
  cases plain
  simp [ofJson?, toJson, recordWith, openMembers, orElse, optional_eq_readLast,
    occurrences_setMembers_cons, normalMembers?_setMembers apart]

/-- A volume in which nothing is carried along, also not in its config map. -/
structure Volume.Plain (volume : Volume) : Prop where
  extra : volume.extra = []
  configMap : ∀ source ∈ volume.configMap, source.extra = []

theorem Volume.ofJson?_toJson {volume : Volume} (plain : volume.Plain) :
    ofJson? volume.toJson = some volume := by
  have apart : ∀ name ∈ Shape.volumeFields.map Prod.fst, name ∉ ["name", "configMap"] := by decide
  have source : readLast ConfigMapSource.ofJson?
      (volume.configMap.map ConfigMapSource.toJson).toList = some volume.configMap :=
    readLast_record rfl fun source found =>
      ConfigMapSource.ofJson?_toJson (plain.configMap source found)
  obtain ⟨name, configMap, extra⟩ := volume
  cases plain.extra
  simp [ofJson?, toJson, recordWith, openMembers, orElse, optional_eq_readLast,
    occurrences_setMembers_cons, normalMembers?_setMembers apart, source]

/-- What runs in a pod, with nothing carried along in any part. -/
structure PodSpec.Plain (spec : PodSpec) : Prop where
  extra : spec.extra = []
  containers : ∀ container ∈ spec.containers, container.Plain
  volumes : ∀ volumes ∈ spec.volumes, ∀ volume ∈ volumes, volume.Plain

theorem PodSpec.ofJson?_toJson {spec : PodSpec} (plain : spec.Plain) :
    ofJson? spec.toJson = some spec := by
  have apart : ∀ name ∈ Shape.podSpecFields.map Prod.fst, name ∉ ["containers", "volumes"] := by
    decide
  have containers : readLast (readList Container.ofJson?)
      [Json.ofList Container.toJson spec.containers] = some (some spec.containers) :=
    readLast_single (readNullable_of_some rfl (readList_ofList fun container member =>
      Container.ofJson?_toJson (plain.containers container member)))
  have volumes : readLast (readList Volume.ofJson?)
      (spec.volumes.map (Json.ofList Volume.toJson)).toList = some spec.volumes :=
    readLast_list fun volumes found volume member =>
      Volume.ofJson?_toJson (plain.volumes volumes found volume member)
  obtain ⟨containerList, volumeList, extra⟩ := spec
  cases plain.extra
  simp [ofJson?, toJson, recordWith, openMembers, orElse, optional_eq_readLast,
    occurrences_setMembers_cons, normalMembers?_setMembers apart, containers, volumes]

/-- A template with valid metadata and nothing carried along in its pods. -/
structure PodTemplate.Plain (template : PodTemplate) : Prop where
  metadata : ∀ metadata ∈ template.metadata, metadata.Valid
  spec : ∀ spec ∈ template.spec, spec.Plain

theorem PodTemplate.ofJson?_toJson {template : PodTemplate} (plain : template.Plain) :
    ofJson? template.toJson = some template := by
  have metadata : readLast ObjectMeta.ofJson? (template.metadata.map ObjectMeta.toJson).toList =
      some template.metadata :=
    readLast_record rfl fun metadata found =>
      ObjectMeta.ofJson?_toJson (plain.metadata metadata found)
  have spec : readLast PodSpec.ofJson? (template.spec.map PodSpec.toJson).toList =
      some template.spec :=
    readLast_record rfl fun spec found => PodSpec.ofJson?_toJson (plain.spec spec found)
  simp [ofJson?, toJson, record, openMembers, optional_eq_readLast, occurrences_setMembers_cons,
    metadata, spec]

/-!
### The template of an instance
-/

namespace Nginx

theorem plain_desiredTemplate (nginx : Nginx) : nginx.desiredTemplate.Plain where
  metadata := by
    intro metadata found
    cases found
    exact ⟨by simp, by simp, by simp⟩
  spec := by
    intro spec found
    cases found
    refine ⟨rfl, ?_, ?_⟩
    · intro container member
      cases List.mem_singleton.mp member
      refine ⟨rfl, by simp [desiredContainer], ?_⟩
      simp [desiredContainer, desiredMounts]
    · intro volumes found volume member
      obtain ⟨config, _, rfl⟩ := Option.map_eq_some_iff.mp found
      cases List.mem_singleton.mp member
      exact ⟨rfl, by simp⟩

theorem ofJson?_desiredTemplate (nginx : Nginx) :
    PodTemplate.ofJson? nginx.desiredTemplate.toJson = some nginx.desiredTemplate :=
  PodTemplate.ofJson?_toJson nginx.plain_desiredTemplate

theorem received_desiredTemplate (nginx : Nginx) :
    nginx.desiredTemplate.toJson.received = nginx.desiredTemplate.toJson := by
  simp [desiredTemplate, desiredContainer, desiredVolumes, desiredMounts, PodTemplate.toJson,
    PodSpec.toJson, Container.toJson, ContainerPort.toJson, VolumeMount.toJson, Volume.toJson,
    ConfigMapSource.toJson, ObjectMeta.toJson, Json.ofList, Function.comp_def, received,
    itemsReceived, membersReceived]

end Nginx

end NginxFleet
