/-
Module: NginxFleet.Proofs.Drift.Detection
Layer: Proofs
Purpose: Which deployments count as drifted. An instance leaves a deployment alone exactly if it finds
  what its specification comes to: the number of pods, their labels, one container with its image,
  port and mounts, and the volumes. All else in a deployment may be dropped without a change of the
  answer, so what a server fills in or a user adds elsewhere is no drift.
Main exports: Deployment.Meets, Deployment.bare, Deployment.ownedFields_bare, drift_is_exact
-/
import NginxFleet.Proofs.Rollout.Effective

namespace NginxFleet

/-!
### What an instance looks for
-/

/-- A container has the port for web pages and no other. -/
def Container.ServesWeb (container : Container) : Prop :=
  ∃ port, container.ports = some [port] ∧ port.name = some "http" ∧ port.containerPort = 80

/-- A container mounts the configuration, read only, if there is one, and nothing else. -/
def Container.MountsConfig (container : Container) : Option String → Prop
  | some _ => ∃ mount, container.volumeMounts = some [mount] ∧ mount.name = "nginx-config" ∧
      mount.mountPath = "/etc/nginx" ∧ mount.readOnly = some true
  | none => container.volumeMounts.getD [] = []

/-- A container is the one that a specification asks for. -/
structure Container.Runs (container : Container) (wanted : EffectiveSpec) : Prop where
  name : container.name = "nginx"
  image : container.image = some wanted.image
  port : container.ServesWeb
  mounts : container.MountsConfig wanted.config

/-- A pod has a volume from the config map of a name, if there is one, and no other. -/
def PodSpec.HasConfig (pod : PodSpec) : Option String → Prop
  | some name => ∃ volume source, pod.volumes = some [volume] ∧ volume.name = "nginx-config" ∧
      volume.configMap = some source ∧ source.name = name
  | none => pod.volumes.getD [] = []

/-- A pod has one container and the volumes that a specification asks for. -/
structure PodSpec.Runs (pod : PodSpec) (wanted : EffectiveSpec) : Prop where
  container : ∃ container, pod.containers = [container] ∧ container.Runs wanted
  volumes : pod.HasConfig wanted.config

/-- A deployment shows everything that an instance looks for. -/
def Deployment.Meets (deployment : Deployment) (nginx : Nginx) : Prop :=
  ∃ spec pod, deployment.spec = some spec ∧ spec.template.spec = some pod ∧
    spec.replicas = some nginx.effectiveSpec.replicas ∧
    spec.template.labels = some (labelsFor nginx.name) ∧ pod.Runs nginx.effectiveSpec

/-!
### Lists that may be unset

What is compared of a list that is not set is the empty list, so one item is seen only in a list that
is set to it.
-/

theorem map_getD_eq_singleton_iff {α β : Type} {list : Option (List α)} {see : α → β}
    {wanted : β} :
    (list.getD []).map see = [wanted] ↔ ∃ item, list = some [item] ∧ see item = wanted := by
  cases list with
  | none => simp
  | some items => simp [List.map_eq_singleton_iff]

namespace Container

variable {container : Container} {wanted : EffectiveSpec}

theorem servesWeb_iff :
    (container.ports.getD []).map (fun port => (port.name, port.containerPort)) =
      [(some httpPortName, httpPort)] ↔ container.ServesWeb := by
  rw [map_getD_eq_singleton_iff]
  simp only [Prod.mk.injEq]
  rfl

theorem mountsConfig_iff {config : Option String} :
    (container.volumeMounts.getD []).map
        (fun mount => (mount.name, mount.mountPath, mount.readOnly)) =
      config.elim [] (fun _ => [(configVolumeName, configMountPath, some true)]) ↔
    container.MountsConfig config := by
  cases config with
  | none => exact List.map_eq_nil_iff
  | some name =>
      rw [Option.elim_some, map_getD_eq_singleton_iff]
      simp only [Prod.mk.injEq]
      rfl

/-- What is compared of a container is what a specification asks for exactly if the container runs it. -/
theorem owned_eq_iff :
    container.owned = {
      name := containerName
      image := some wanted.image
      ports := [(some httpPortName, httpPort)]
      mounts := wanted.config.elim [] fun _ =>
        [(configVolumeName, configMountPath, some true)] } ↔ container.Runs wanted := by
  rw [owned, OwnedContainer.mk.injEq, servesWeb_iff, mountsConfig_iff]
  exact ⟨fun ⟨name, image, port, mounts⟩ => ⟨name, image, port, mounts⟩,
    fun runs => ⟨runs.name, runs.image, runs.port, runs.mounts⟩⟩

end Container

namespace PodSpec

variable {pod : PodSpec} {wanted : EffectiveSpec}

theorem hasConfig_iff {config : Option String} :
    (pod.volumes.getD []).map Volume.owned =
      config.elim [] (fun name => [(configVolumeName, some name)]) ↔ pod.HasConfig config := by
  cases config with
  | none => exact List.map_eq_nil_iff
  | some name =>
      rw [Option.elim_some, map_getD_eq_singleton_iff]
      simp only [Volume.owned, Prod.mk.injEq, Option.map_eq_some_iff]
      constructor
      · rintro ⟨volume, only, named, source, given, same⟩
        exact ⟨volume, source, only, named, given, same⟩
      · rintro ⟨volume, source, only, named, given, same⟩
        exact ⟨volume, only, named, source, given, same⟩

/-- What is compared of a pod is what a specification asks for exactly if the pod runs it. -/
theorem runs_iff :
    pod.containers.map Container.owned = [{
        name := containerName
        image := some wanted.image
        ports := [(some httpPortName, httpPort)]
        mounts := wanted.config.elim [] fun _ =>
          [(configVolumeName, configMountPath, some true)] }] ∧
      (pod.volumes.getD []).map Volume.owned =
        wanted.config.elim [] (fun name => [(configVolumeName, some name)]) ↔
    pod.Runs wanted := by
  rw [List.map_eq_singleton_iff, hasConfig_iff]
  simp only [Container.owned_eq_iff]
  exact ⟨fun ⟨container, volumes⟩ => ⟨container, volumes⟩,
    fun runs => ⟨runs.container, runs.volumes⟩⟩

end PodSpec

namespace Deployment

variable {deployment : Deployment} {nginx : Nginx}

/-- What is compared of a deployment is what an instance wants exactly if the deployment shows it. -/
theorem ownedFields_eq_iff_meets :
    deployment.ownedFields = nginx.desiredDeployment.ownedFields ↔ deployment.Meets nginx := by
  rw [Nginx.ownedFields_desiredDeployment, ownedFields, OwnedFields.mk.injEq]
  unfold Meets
  cases found : deployment.spec with
  | none => simp
  | some spec =>
      have pods : deployment.podSpec? = spec.template.spec := by simp [podSpec?, found]
      rw [pods]
      cases runs : spec.template.spec with
      | none => simp [runs]
      | some pod =>
          simp only [Option.bind_some, Option.some.injEq]
          rw [PodSpec.runs_iff]
          constructor
          · exact fun shown => ⟨spec, pod, rfl, runs, shown⟩
          · rintro ⟨_, shownPod, rfl, shown, rest⟩
            rw [runs, Option.some.injEq] at shown
            exact shown ▸ rest

end Deployment

/-!
### What has no say

Everything else is dropped from a deployment, down to the fields of ports, mounts and volumes.
-/

/-- A port with its name and its number only. -/
def ContainerPort.bare (port : ContainerPort) : ContainerPort where
  name := port.name
  containerPort := port.containerPort

/-- A mount with its name, its path and whether it is read only. -/
def VolumeMount.bare (mount : VolumeMount) : VolumeMount where
  name := mount.name
  mountPath := mount.mountPath
  readOnly := mount.readOnly

/-- A container with its name, its image, its ports and its mounts only. -/
def Container.bare (container : Container) : Container where
  name := container.name
  image := container.image
  ports := some ((container.ports.getD []).map ContainerPort.bare)
  volumeMounts := some ((container.volumeMounts.getD []).map VolumeMount.bare)

/-- A volume with its name and that of its config map only. -/
def Volume.bare (volume : Volume) : Volume where
  name := volume.name
  configMap := volume.configMap.map fun source => { name := source.name }

/-- A pod with its containers and its volumes only. -/
def PodSpec.bare (pod : PodSpec) : PodSpec where
  containers := pod.containers.map Container.bare
  volumes := some ((pod.volumes.getD []).map Volume.bare)

/-- A template with its labels and its pod only. -/
def PodTemplate.bare (template : PodTemplate) : PodTemplate where
  metadata := template.labels.map fun labels => { labels := some labels }
  spec := template.spec.map PodSpec.bare

/-- A deployment with its number of pods and their template only. -/
def Deployment.bare (deployment : Deployment) : Deployment where
  spec := deployment.spec.map fun spec =>
    { replicas := spec.replicas, template := spec.template.bare }

theorem Container.owned_bare (container : Container) : container.bare.owned = container.owned := by
  simp [owned, bare, ContainerPort.bare, VolumeMount.bare, Function.comp_def]

theorem Volume.owned_bare (volume : Volume) : volume.bare.owned = volume.owned := by
  simp [owned, bare, Function.comp_def]

theorem PodTemplate.labels_bare (template : PodTemplate) :
    template.bare.labels = template.labels := by
  unfold bare labels
  cases template.metadata.bind ObjectMeta.labels <;> rfl

/-- What is compared of a deployment stays when all else is dropped. -/
theorem Deployment.ownedFields_bare (deployment : Deployment) :
    deployment.bare.ownedFields = deployment.ownedFields := by
  unfold ownedFields podSpec?
  cases found : deployment.spec with
  | none => simp [bare, found]
  | some spec =>
      have bared : deployment.bare.spec =
          some { replicas := spec.replicas, template := spec.template.bare } := by
        simp [bare, found]
      rw [bared]
      simp only [Option.bind_some, PodTemplate.labels_bare]
      cases runs : spec.template.spec with
      | none => simp [PodTemplate.bare, runs]
      | some pod =>
          simp [PodTemplate.bare, runs, PodSpec.bare, Function.comp_def, Container.owned_bare,
            Volume.owned_bare]

/-- A deployment is left alone exactly if it shows everything that the instance looks for, and no other
    part of it has a say: dropping all of them does not change the answer. -/
theorem drift_is_exact (nginx : Nginx) (existing : Deployment) :
    (existing.repair? nginx.desiredDeployment = none ↔ existing.Meets nginx) ∧
      (existing.bare.repair? nginx.desiredDeployment = none ↔
        existing.repair? nginx.desiredDeployment = none) := by
  constructor
  · rw [Deployment.repair?_eq_none_iff]
    exact Deployment.ownedFields_eq_iff_meets
  · rw [Deployment.repair?_eq_none_iff, Deployment.repair?_eq_none_iff,
      Deployment.ownedFields_bare]

end NginxFleet
