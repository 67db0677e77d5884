/-
Module: NginxFleet.Proofs.Reconcile.Defaults
Layer: Proofs
Purpose: Defaults that a server fills into a deployment are no drift. Everything that is compared of a
  deployment in line is set when it is sent, and stays. The lists and maps that are compared must not
  grow, which is what the outline of a deployment says: the labels of its pods, and how many
  containers, ports, mounts and volumes there are.
Main exports: Deployment.outline, Deployment.ownedFields_of_filledBy
-/
import NginxFleet.Proofs.Reconcile.Repair
import NginxFleet.Proofs.Wire.Filled

namespace NginxFleet

open Json

/-- The size of what is compared of a deployment: the keys of the labels of its pods, the number of
    ports and mounts of each container, and the number of volumes. -/
structure Outline where
  labels : List String
  containers : List (Nat × Nat)
  volumes : Nat
deriving DecidableEq, Repr

/-- How many ports and mounts a container has. -/
def Container.outline (container : Container) : Nat × Nat :=
  ((container.ports.getD []).length, (container.volumeMounts.getD []).length)

/-- The outline of a deployment. Lists and labels that are not set count as empty. -/
def Deployment.outline (deployment : Deployment) : Outline where
  labels :=
    match deployment.spec.bind fun spec => spec.template.labels with
    | some labels => labels.entries.map Prod.fst
    | none => []
  containers :=
    match deployment.podSpec? with
    | some pod => pod.containers.map Container.outline
    | none => []
  volumes :=
    match deployment.podSpec? with
    | some pod => (pod.volumes.getD []).length
    | none => 0

/-!
### The parts of a template

Each part is taken as the operator sends it, with all that is compared of it set.
-/

theorem FilledBy.of_recordWith {known : List (String × Option Json)} {document : Json}
    (distinct : (known.map Prod.fst).Nodup) (filled : FilledBy (recordWith known []) document) :
    ∃ fields, document = .obj fields ∧ ∀ key, FilledBy (given key known) (field key fields) := by
  apply FilledBy.of_record distinct
  simpa [recordWith, record] using filled

theorem ContainerPort.seen_of_filledBy {number : Int32} {name : String} {kept : ContainerPort}
    {document : Json}
    (filled : FilledBy (toJson { name := some name, containerPort := number }) document)
    (reading : ofJson? document = some kept) :
    kept.name = some name ∧ kept.containerPort = number := by
  obtain ⟨fields, rfl, each⟩ := FilledBy.of_recordWith (by simp) filled
  unfold ofJson? at reading
  simp only [openMembers, Option.bind_eq_bind, Option.bind_some, Option.bind_eq_some_iff] at reading
  obtain ⟨_, numbers, _, names, _, _, made⟩ := reading
  cases made
  exact ⟨(each "name").text names, (each "containerPort").int32OrElse numbers⟩

theorem VolumeMount.seen_of_filledBy {path name : String} {flag : Bool} {kept : VolumeMount}
    {document : Json}
    (filled : FilledBy (toJson { name, mountPath := path, readOnly := some flag }) document)
    (reading : ofJson? document = some kept) :
    kept.name = name ∧ kept.mountPath = path ∧ kept.readOnly = some flag := by
  obtain ⟨fields, rfl, each⟩ := FilledBy.of_recordWith (by simp) filled
  unfold ofJson? at reading
  simp only [openMembers, Option.bind_eq_bind, Option.bind_some, Option.bind_eq_some_iff] at reading
  obtain ⟨_, paths, _, names, _, flags, _, _, made⟩ := reading
  cases made
  exact ⟨(each "name").textOrElse names, (each "mountPath").textOrElse paths,
    (each "readOnly").flag flags⟩

theorem ConfigMapSource.seen_of_filledBy {name : String} {kept : ConfigMapSource}
    {document : Json} (filled : FilledBy (toJson { name }) document)
    (reading : ofJson? document = some kept) : kept.name = name := by
  obtain ⟨fields, rfl, each⟩ := FilledBy.of_recordWith (by simp) filled
  unfold ofJson? at reading
  simp only [openMembers, Option.bind_eq_bind, Option.bind_some, Option.bind_eq_some_iff] at reading
  obtain ⟨_, names, _, _, made⟩ := reading
  cases made
  exact (each "name").textOrElse names

theorem Volume.owned_of_filledBy {name source : String} {kept : Volume} {document : Json}
    (filled : FilledBy (toJson { name, configMap := some { name := source } }) document)
    (reading : ofJson? document = some kept) : kept.owned = (name, some source) := by
  obtain ⟨fields, rfl, each⟩ := FilledBy.of_recordWith (by simp) filled
  unfold ofJson? at reading
  simp only [openMembers, Option.bind_eq_bind, Option.bind_some, Option.bind_eq_some_iff] at reading
  obtain ⟨_, names, _, sources, _, _, made⟩ := reading
  cases made
  have map : FilledBy (ConfigMapSource.toJson { name := source }) (field "configMap" fields) :=
    each "configMap"
  obtain ⟨configMap, rfl, read⟩ :=
    map.optional (by simp [ConfigMapSource.toJson, recordWith]) sources
  simp [owned, (each "name").textOrElse names, ConfigMapSource.seen_of_filledBy map read]

/-- What is seen of a list that may be unset stays, if the list does not grow while it is unset. -/
theorem FilledBy.seen_of_list {α β : Type} {read : Json → Option α} {write : α → Json}
    {see : α → β} {key : String} {fields : List (String × Json)}
    {sent kept : Option (List α)}
    (filled : FilledBy ((sent.map (Json.ofList write)).getD .null) (field key fields))
    (reading : optional (readList read) key fields = some kept)
    (count : (kept.getD []).length = (sent.getD []).length)
    (each : ∀ items ∈ sent, ∀ item ∈ items, ∀ document value, FilledBy (write item) document →
      read document = some value → see value = see item) :
    (kept.getD []).map see = (sent.getD []).map see := by
  cases sent with
  | none =>
      rw [List.length_eq_zero_iff.mp count]
      rfl
  | some items =>
      obtain ⟨found, rfl, read⟩ := filled.optional (by simp [Json.ofList]) reading
      have lengths : found.length = items.length := count
      have shapes : found.map (fun _ => ()) = items.map fun _ => () := by
        rw [List.map_const', List.map_const', lengths]
      apply filled.readList read shapes
      intro item member document value filled reading _
      exact each items rfl item member document value filled reading

/-- The only container stays, if it is given no mounts. -/
theorem Container.owned_of_filledBy {nginx : Nginx} {kept : Container} {document : Json}
    (filled : FilledBy nginx.desiredContainer.toJson document)
    (reading : ofJson? document = some kept)
    (outline : kept.outline = nginx.desiredContainer.outline) :
    kept.owned = nginx.desiredContainer.owned := by
  obtain ⟨fields, rfl, each⟩ := FilledBy.of_recordWith (by simp) filled
  unfold ofJson? at reading
  simp only [openMembers, Option.bind_eq_bind, Option.bind_some, Option.bind_eq_some_iff] at reading
  obtain ⟨name, names, image, images, ports, portLists, mounts, mountLists, _, _, made⟩ := reading
  cases made
  have sameName : name = containerName := (each "name").textOrElse names
  have sameImage : image = some nginx.image := (each "image").text images
  have samePorts : (ports.getD []).map (fun port => (port.name, port.containerPort)) =
      (nginx.desiredContainer.ports.getD []).map fun port => (port.name, port.containerPort) := by
    refine FilledBy.seen_of_list (each "ports") portLists (congrArg Prod.fst outline) ?_
    intro items found item member document value filled reading
    cases found
    cases List.mem_singleton.mp member
    obtain ⟨nameStays, numberStays⟩ := ContainerPort.seen_of_filledBy filled reading
    rw [nameStays, numberStays]
  have sameMounts : (mounts.getD []).map
      (fun mount => (mount.name, mount.mountPath, mount.readOnly)) =
        (nginx.desiredMounts.getD []).map
          fun mount => (mount.name, mount.mountPath, mount.readOnly) := by
    apply FilledBy.seen_of_list (each "volumeMounts") mountLists (congrArg Prod.snd outline)
    intro items found item member document value filled reading
    obtain ⟨config, -, rfl⟩ := Option.map_eq_some_iff.mp found
    cases List.mem_singleton.mp member
    obtain ⟨nameStays, pathStays, flagStays⟩ := VolumeMount.seen_of_filledBy filled reading
    rw [nameStays, pathStays, flagStays]
  simp only [owned, sameName, sameImage, samePorts, sameMounts]
  rfl

theorem PodSpec.owned_of_filledBy {nginx : Nginx} {kept : PodSpec} {document : Json}
    (filled : FilledBy (toJson {
      containers := [nginx.desiredContainer], volumes := nginx.desiredVolumes }) document)
    (reading : ofJson? document = some kept)
    (containers : kept.containers.map Container.outline = [nginx.desiredContainer.outline])
    (volumes : (kept.volumes.getD []).length = (nginx.desiredVolumes.getD []).length) :
    kept.containers.map Container.owned = [nginx.desiredContainer.owned] ∧
      (kept.volumes.getD []).map Volume.owned =
        (nginx.desiredVolumes.getD []).map Volume.owned := by
  obtain ⟨fields, rfl, each⟩ := FilledBy.of_recordWith (by simp) filled
  unfold ofJson? at reading
  simp only [openMembers, Option.bind_eq_bind, Option.bind_some, Option.bind_eq_some_iff] at reading
  obtain ⟨containerList, containerLists, volumeList, volumeLists, _, _, made⟩ := reading
  cases made
  constructor
  · have list : FilledBy (Json.ofList Container.toJson [nginx.desiredContainer])
        (field "containers" fields) := each "containers"
    have read := list.orElse (by simp [Json.ofList]) containerLists
    apply list.readList read containers
    intro item member document value filled reading outline
    cases List.mem_singleton.mp member
    exact Container.owned_of_filledBy filled reading outline
  · apply FilledBy.seen_of_list (each "volumes") volumeLists volumes
    intro items found item member document value filled reading
    obtain ⟨config, -, rfl⟩ := Option.map_eq_some_iff.mp found
    cases List.mem_singleton.mp member
    exact Volume.owned_of_filledBy filled reading

theorem ObjectMeta.labels_of_filledBy {labels : Labels} {kept : ObjectMeta} {document : Json}
    (filled : FilledBy (toJson { labels := some labels }) document)
    (reading : ofJson? document = some kept)
    (keys : ∀ found ∈ kept.labels,
      found.entries.map Prod.fst = labels.entries.map Prod.fst) : kept.labels = some labels := by
  obtain ⟨fields, rfl, each⟩ := FilledBy.of_record (by simp) filled
  have labelMaps := (ofJson?_obj_iff.mp reading).labels
  have map : FilledBy (ofTextMap labels) (field "labels" fields) := each "labels"
  obtain ⟨found, same, read⟩ := map.optional (by simp [ofTextMap, ofMap]) labelMaps
  rw [same, map.textMap read (keys found same)]

theorem PodTemplate.owned_of_filledBy {nginx : Nginx} {kept : PodTemplate} {document : Json}
    (filled : FilledBy nginx.desiredTemplate.toJson document)
    (reading : ofJson? document = some kept)
    (labels : ∀ labels ∈ kept.labels,
      labels.entries.map Prod.fst = (labelsFor nginx.name).entries.map Prod.fst)
    (containers : ∀ spec ∈ kept.spec,
      spec.containers.map Container.outline = [nginx.desiredContainer.outline])
    (volumes : ∀ spec ∈ kept.spec,
      (spec.volumes.getD []).length = (nginx.desiredVolumes.getD []).length) :
    kept.labels = some (labelsFor nginx.name) ∧
      ∃ spec, kept.spec = some spec ∧
        spec.containers.map Container.owned = [nginx.desiredContainer.owned] ∧
        (spec.volumes.getD []).map Volume.owned =
          (nginx.desiredVolumes.getD []).map Volume.owned := by
  obtain ⟨fields, rfl, each⟩ := FilledBy.of_record (by simp) filled
  unfold ofJson? at reading
  simp only [openMembers, Option.bind_eq_bind, Option.bind_some, Option.bind_eq_some_iff] at reading
  obtain ⟨metadata, found, spec, specified, made⟩ := reading
  cases made
  constructor
  · have given : FilledBy (ObjectMeta.toJson { labels := some (labelsFor nginx.name) })
        (field "metadata" fields) := each "metadata"
    obtain ⟨kept, rfl, read⟩ := given.optional (by simp [ObjectMeta.toJson, record]) found
    exact ObjectMeta.labels_of_filledBy given read labels
  · have given : FilledBy (PodSpec.toJson {
        containers := [nginx.desiredContainer], volumes := nginx.desiredVolumes })
        (field "spec" fields) := each "spec"
    obtain ⟨pod, rfl, read⟩ := given.optional (by simp [PodSpec.toJson, recordWith]) specified
    exact ⟨pod, rfl, PodSpec.owned_of_filledBy given read (containers pod rfl) (volumes pod rfl)⟩

/-!
### Deployments
-/

theorem DeploymentSpec.seen_of_filledBy {spec kept : DeploymentSpec} {document : Json}
    {replicas : Int32} (asked : spec.replicas = some replicas)
    (filled : FilledBy spec.toJson document) (reading : ofJson? document = some kept) :
    kept.replicas = some replicas ∧ ∃ template, FilledBy spec.template.toJson template ∧
      PodTemplate.ofJson? template = some kept.template := by
  obtain ⟨fields, rfl, each⟩ := FilledBy.of_record (by simp) filled
  unfold ofJson? at reading
  simp only [openMembers, Option.bind_eq_bind, Option.bind_some, Option.bind_eq_some_iff] at reading
  obtain ⟨_, _, _, _, _, _, _, numbers, _, _, _, _, _, _, _, templates, made⟩ := reading
  cases made
  have number : FilledBy (ofInt32 replicas) (field "replicas" fields) := by
    have given : FilledBy ((spec.replicas.map ofInt32).getD .null) (field "replicas" fields) :=
      each "replicas"
    rw [asked] at given
    exact given
  have template : FilledBy spec.template.toJson (field "template" fields) := each "template"
  exact ⟨number.int32 numbers, _, template,
    template.orElse (by simp [PodTemplate.toJson, record]) templates⟩

namespace Deployment

variable {nginx : Nginx} {sent kept : Deployment}

theorem InLine.outline_eq (inLine : sent.InLine nginx) :
    sent.outline = nginx.desiredDeployment.outline := by
  obtain ⟨spec, found, -, template⟩ := inLine
  simp [outline, podSpec?, found, template, Nginx.desiredDeployment, Nginx.desiredDeploymentSpec]

/-- A deployment in line stays in line, whatever is filled in that does not change its outline. -/
theorem ownedFields_of_filledBy {document : Json} (inLine : sent.InLine nginx)
    (filled : FilledBy sent.toJson document) (reading : ofJson? document = some kept)
    (outline : kept.outline = sent.outline) :
    kept.ownedFields = nginx.desiredDeployment.ownedFields := by
  rw [inLine.outline_eq] at outline
  obtain ⟨spec, specified, replicas, template⟩ := inLine
  obtain ⟨fields, rfl, each⟩ := FilledBy.of_record (by simp) filled
  unfold ofJson? at reading
  simp only [Option.bind_eq_bind, Option.bind_eq_some_iff] at reading
  obtain ⟨members, identity, metadata, found, keptSpec, specs, status, reported, made⟩ := reading
  cases made
  obtain ⟨rfl, -⟩ := identified_eq_some_iff.mp identity
  have given : FilledBy spec.toJson (field "spec" members) := by
    have given : FilledBy ((sent.spec.map DeploymentSpec.toJson).getD .null)
        (field "spec" members) := each "spec"
    rw [specified] at given
    exact given
  obtain ⟨kept, rfl, read⟩ := given.optional (by simp [DeploymentSpec.toJson, record]) specs
  obtain ⟨keptReplicas, document, filledTemplate, readTemplate⟩ :=
    DeploymentSpec.seen_of_filledBy replicas given read
  rw [template] at filledTemplate
  have keys : ∀ labels ∈ kept.template.labels,
      labels.entries.map Prod.fst = (labelsFor nginx.name).entries.map Prod.fst := by
    intro labels found
    have wanted : nginx.desiredTemplate.labels = some (labelsFor nginx.name) := rfl
    have same := congrArg Outline.labels outline
    simpa [Deployment.outline, Option.mem_def.mp found, Nginx.desiredDeployment,
      Nginx.desiredDeploymentSpec, wanted] using same
  have shapes : ∀ pod ∈ kept.template.spec,
      pod.containers.map Container.outline = [nginx.desiredContainer.outline] := by
    intro pod found
    have same := congrArg Outline.containers outline
    simpa [Deployment.outline, podSpec?, Option.mem_def.mp found, Nginx.desiredDeployment,
      Nginx.desiredDeploymentSpec, Nginx.desiredTemplate] using same
  have count : ∀ pod ∈ kept.template.spec,
      (pod.volumes.getD []).length = (nginx.desiredVolumes.getD []).length := by
    intro pod found
    have same := congrArg Outline.volumes outline
    simpa [Deployment.outline, podSpec?, Option.mem_def.mp found, Nginx.desiredDeployment,
      Nginx.desiredDeploymentSpec, Nginx.desiredTemplate] using same
  obtain ⟨labels, pod, podFound, containers, volumes⟩ :=
    PodTemplate.owned_of_filledBy filledTemplate readTemplate keys shapes count
  simp only [ownedFields, podSpec?, Option.bind_some, keptReplicas, labels, podFound, containers,
    volumes]
  rfl

end Deployment

end NginxFleet
