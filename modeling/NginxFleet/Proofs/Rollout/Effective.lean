/-
Module: NginxFleet.Proofs.Rollout.Effective
Layer: Proofs
Purpose: What a specification comes to when defaults stand for what is left out. The parts of a
  deployment that are compared to find a drift tell any two names and any two such specifications
  apart, so nothing that a user may ask for is overlooked.
Main exports: EffectiveSpec, Nginx.effectiveSpec, labelsFor_injective,
  Nginx.ownedFields_desiredDeployment_inj, Deployment.InLine.congr
-/
import NginxFleet.Proofs.Protocol.Sent
import NginxFleet.Proofs.Reconcile.Repair

namespace NginxFleet

/-- What a specification comes to: the number of pods, the image, and the name of the configuration
    if there is one. -/
@[ext]
structure EffectiveSpec where
  replicas : Int32
  image : String
  config : Option String
deriving DecidableEq, Repr

namespace Nginx

/-- The specification of an instance, with one pod and the latest image where nothing is asked for;
    an empty image asks for nothing. -/
def effectiveSpec (nginx : Nginx) : EffectiveSpec where
  replicas :=
    match nginx.spec.replicas with
    | some count => count
    | none => 1
  image :=
    match nginx.spec.image with
    | some "" | none => "nginx:latest"
    | some image => image
  config :=
    match nginx.spec.config with
    | some config => some config.name
    | none => none

theorem replicas_eq_effective (nginx : Nginx) :
    nginx.replicas = nginx.effectiveSpec.replicas := by
  unfold effectiveSpec Nginx.replicas
  cases nginx.spec.replicas <;> rfl

theorem image_eq_effective (nginx : Nginx) : nginx.image = nginx.effectiveSpec.image := by
  unfold effectiveSpec Nginx.image
  cases nginx.spec.image with
  | none => rfl
  | some image =>
      by_cases empty : image = ""
      · rw [empty]
        rfl
      · simp only [empty, if_false]

theorem config_eq_effective (nginx : Nginx) :
    nginx.spec.config = nginx.effectiveSpec.config.map ConfigRef.mk := by
  unfold effectiveSpec
  cases nginx.spec.config <;> rfl

/-- The volumes that are compared are told by the configuration. -/
theorem volumes_eq_effective (nginx : Nginx) :
    (nginx.desiredVolumes.getD []).map Volume.owned =
      nginx.effectiveSpec.config.elim [] fun name => [(configVolumeName, some name)] := by
  unfold effectiveSpec desiredVolumes
  cases nginx.spec.config <;> rfl

/-- The mounts that are compared are told by the configuration. -/
theorem mounts_eq_effective (nginx : Nginx) :
    ((nginx.desiredMounts.getD []).map fun mount =>
        (mount.name, mount.mountPath, mount.readOnly)) =
      nginx.effectiveSpec.config.elim [] fun _ =>
        [(configVolumeName, configMountPath, some true)] := by
  unfold effectiveSpec desiredMounts
  cases nginx.spec.config <;> rfl

end Nginx

/-- Labels tell instances apart. -/
theorem labelsFor_injective {name other : String} (same : labelsFor name = labelsFor other) :
    name = other := by
  have entries := congrArg KeyMap.entries same
  rw [entries_labelsFor, entries_labelsFor] at entries
  simpa using entries

namespace Nginx

/-- What is compared of a wanted deployment is a function of the name and of what the specification
    comes to. -/
theorem ownedFields_desiredDeployment (nginx : Nginx) :
    nginx.desiredDeployment.ownedFields = {
      replicas := some nginx.effectiveSpec.replicas
      templateLabels := some (labelsFor nginx.name)
      containers := [{
        name := containerName
        image := some nginx.effectiveSpec.image
        ports := [(some httpPortName, httpPort)]
        mounts := nginx.effectiveSpec.config.elim [] fun _ =>
          [(configVolumeName, configMountPath, some true)] }]
      volumes := nginx.effectiveSpec.config.elim [] fun name =>
        [(configVolumeName, some name)] } := by
  rw [← volumes_eq_effective, ← mounts_eq_effective, ← replicas_eq_effective,
    ← image_eq_effective]
  rfl

/-- What is compared of two wanted deployments is the same exactly if the instances have one name and
    their specifications come to the same. -/
theorem ownedFields_desiredDeployment_inj {nginx other : Nginx} :
    nginx.desiredDeployment.ownedFields = other.desiredDeployment.ownedFields ↔
      nginx.name = other.name ∧ nginx.effectiveSpec = other.effectiveSpec := by
  rw [ownedFields_desiredDeployment, ownedFields_desiredDeployment]
  constructor
  · intro same
    simp only [OwnedFields.mk.injEq, List.cons.injEq, OwnedContainer.mk.injEq, Option.some.injEq,
      true_and, and_true] at same
    obtain ⟨replicas, labels, ⟨image, -⟩, volumes⟩ := same
    have config : nginx.effectiveSpec.config = other.effectiveSpec.config := by
      revert volumes
      cases nginx.effectiveSpec.config <;> cases other.effectiveSpec.config <;> simp
    exact ⟨labelsFor_injective labels, EffectiveSpec.ext replicas image config⟩
  · rintro ⟨name, spec⟩
    rw [name, spec]

/-- The template of the pods is a function of the name and of what the specification comes to. -/
theorem desiredTemplate_congr {nginx other : Nginx} (name : nginx.name = other.name)
    (spec : nginx.effectiveSpec = other.effectiveSpec) :
    nginx.desiredTemplate = other.desiredTemplate := by
  have image : nginx.image = other.image := by
    rw [image_eq_effective, image_eq_effective, spec]
  have config : nginx.spec.config = other.spec.config := by
    rw [config_eq_effective, config_eq_effective, spec]
  unfold desiredTemplate desiredContainer desiredVolumes desiredMounts
  rw [name, image, config]

end Nginx

/-- A deployment in line with one instance is in line with every one of the same name whose
    specification comes to the same. -/
theorem Deployment.InLine.congr {nginx other : Nginx} {deployment : Deployment}
    (inLine : deployment.InLine other) (name : nginx.name = other.name)
    (spec : nginx.effectiveSpec = other.effectiveSpec) : deployment.InLine nginx := by
  have replicas : nginx.replicas = other.replicas := by
    rw [Nginx.replicas_eq_effective, Nginx.replicas_eq_effective, spec]
  unfold InLine
  rw [replicas, Nginx.desiredTemplate_congr name spec]
  exact inLine

end NginxFleet
