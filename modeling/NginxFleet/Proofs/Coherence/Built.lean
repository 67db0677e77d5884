/-
Module: NginxFleet.Proofs.Coherence.Built
Layer: Proofs
Purpose: What is built for an instance fits together. The selector of a deployment stays from when it
  was created and its template is replaced by later ones, so a deployment may stem from two snapshots;
  it is enough that both have one name. A service selects the pods of the deployments of its own
  instance and of no other, and reaches them through a port that just one of their containers names.
Main exports: PodSpec.MountsItsVolumes, PodSpec.portsNamed, Deployment.Coherent, Service.Selects,
  Service.TargetsOnePort, Deployment.BuiltFor, Service.BuiltFor
-/
import NginxFleet.Proofs.Reconcile.Versions
import NginxFleet.Proofs.Rollout.Effective
import NginxFleet.Proofs.Server.Effect

namespace NginxFleet

/-!
### Objects that fit together
-/

/-- Labels meet every requirement of a selector. -/
def Labels.Satisfy (labels selector : Labels) : Prop :=
  ∀ entry ∈ selector.entries, labels.get? entry.1 = some entry.2

namespace PodSpec

/-- The ports of a name, of whichever container. -/
def portsNamed (pod : PodSpec) (name : String) : List ContainerPort :=
  pod.containers.flatMap fun container =>
    (container.ports.getD []).filter fun port => port.name = some name

/-- The volumes that the containers mount are those of the pod. -/
structure MountsItsVolumes (pod : PodSpec) : Prop where
  given : ∀ container ∈ pod.containers, ∀ mount ∈ container.volumeMounts.getD [],
    ∃ volume ∈ pod.volumes.getD [], volume.name = mount.name
  mounted : ∀ volume ∈ pod.volumes.getD [], ∃ container ∈ pod.containers,
    ∃ mount ∈ container.volumeMounts.getD [], mount.name = volume.name

end PodSpec

namespace Deployment

/-- The labels that a deployment puts on its pods. -/
def podLabels? (deployment : Deployment) : Option Labels :=
  deployment.spec.bind fun spec => spec.template.labels

/-- A deployment is named after an instance, it selects by the labels of the instance, which are those
    of its pods, and its pods mount their own volumes. -/
structure Coherent (name : String) (deployment : Deployment) : Prop where
  named : deployment.metadata.name = some (name ++ "-deployment")
  selector : deployment.spec.map DeploymentSpec.selector =
    some { matchLabels := some (labelsFor name) }
  labels : deployment.podLabels? = some (labelsFor name)
  volumes : ∃ pod, deployment.podSpec? = some pod ∧ pod.MountsItsVolumes

end Deployment

namespace Service

/-- The pods of a deployment have the labels that a service selects. -/
def Selects (service : Service) (deployment : Deployment) : Prop :=
  ∃ selector labels, service.spec.bind ServiceSpec.selector = some selector ∧
    deployment.podLabels? = some labels ∧ Labels.Satisfy labels selector

/-- The only port of a service leads to a port that just one container of a deployment names. -/
def TargetsOnePort (service : Service) (deployment : Deployment) : Prop :=
  ∃ port target pod named, service.spec.bind ServiceSpec.ports = some [port] ∧
    port.targetPort = some (.text target) ∧ deployment.podSpec? = some pod ∧
    pod.portsNamed target = [named]

end Service

/-!
### What is built for an instance
-/

/-- The labels of an instance meet the requirements of its own service only. -/
theorem labelsFor_satisfy_iff {name other : String} :
    Labels.Satisfy (labelsFor other) (labelsFor name) ↔ other = name := by
  constructor
  · intro satisfied
    have asked : (instanceKey, name) ∈ (labelsFor name).entries := by
      rw [entries_labelsFor]
      exact List.mem_cons_of_mem _ List.mem_cons_self
    have held : (instanceKey, other) ∈ (labelsFor other).entries := by
      rw [entries_labelsFor]
      exact List.mem_cons_of_mem _ List.mem_cons_self
    have value := satisfied _ asked
    rw [KeyMap.get?_of_mem held] at value
    exact Option.some.inj value
  · rintro rfl entry asked
    exact KeyMap.get?_of_mem asked

/-- The pod that an instance asks for mounts the configuration exactly if it has it. -/
theorem Nginx.mountsItsVolumes_desired (nginx : Nginx) :
    PodSpec.MountsItsVolumes
      { containers := [nginx.desiredContainer], volumes := nginx.desiredVolumes } := by
  cases config : nginx.spec.config with
  | none =>
      constructor <;> simp [desiredContainer, desiredMounts, desiredVolumes, config]
  | some source =>
      constructor <;> simp [desiredContainer, desiredMounts, desiredVolumes, config]

namespace Deployment

/-- A deployment has the name and the selector of an instance, and the template that the instance asks
    for. -/
structure BuiltFor (nginx : Nginx) (deployment : Deployment) : Prop where
  named : deployment.metadata.name = some nginx.deploymentName
  spec : ∃ spec, deployment.spec = some spec ∧
    spec.selector = { matchLabels := some (labelsFor nginx.name) } ∧
    spec.template = nginx.desiredTemplate

variable {nginx other : Nginx} {existing repaired deployment : Deployment}

theorem builtFor_desiredDeployment (nginx : Nginx) : nginx.desiredDeployment.BuiltFor nginx where
  named := rfl
  spec := ⟨_, rfl, rfl, rfl⟩

/-- A repair keeps the selector and takes the template of the later snapshot, so the deployment is built
    for this one if both have one name. -/
theorem BuiltFor.of_repair? (built : existing.BuiltFor other) (name : nginx.name = other.name)
    (repair : existing.repair? nginx.desiredDeployment = some repaired) :
    repaired.BuiltFor nginx := by
  obtain ⟨spec, found, selector, -⟩ := built.spec
  obtain ⟨-, rfl⟩ := repair?_eq_some_iff.mp repair
  refine ⟨?_, ?_⟩
  · rw [Nginx.deploymentName, name]
    exact built.named
  · rw [found, name]
    exact ⟨_, rfl, selector, rfl⟩

/-- A deployment that a server stores as it came or with a version is read as built. -/
theorem BuiltFor.stamped {key : ObjectKey} {document : Json} (built : deployment.BuiltFor nginx)
    (sendable : deployment.Sendable)
    (stamps : Stamps key deployment.toJson.received document) :
    ∃ kept, ofJson? document.received = some kept ∧ kept.BuiltFor nginx := by
  obtain ⟨kept, version, reading, metadata, spec, -⟩ := ofJson?_stamped sendable stamps
  refine ⟨kept, reading, ?_, ?_⟩
  · rw [metadata]
    exact built.named
  · rw [spec]
    exact built.spec

theorem BuiltFor.podLabels? (built : deployment.BuiltFor nginx) :
    deployment.podLabels? = some (labelsFor nginx.name) := by
  obtain ⟨spec, found, -, template⟩ := built.spec
  rw [Deployment.podLabels?, found, Option.bind_some, template]
  rfl

theorem BuiltFor.podSpec? (built : deployment.BuiltFor nginx) :
    deployment.podSpec? =
      some { containers := [nginx.desiredContainer], volumes := nginx.desiredVolumes } := by
  obtain ⟨spec, found, -, template⟩ := built.spec
  rw [Deployment.podSpec?, found, Option.bind_some, template]
  rfl

theorem BuiltFor.coherent (built : deployment.BuiltFor nginx) :
    deployment.Coherent nginx.name where
  named := built.named
  selector := by
    obtain ⟨spec, found, selector, -⟩ := built.spec
    rw [found, Option.map_some, selector]
  labels := built.podLabels?
  volumes := ⟨_, built.podSpec?, nginx.mountsItsVolumes_desired⟩

end Deployment

namespace Service

/-- A service has the name and the specification of the one that an instance asks for. -/
structure BuiltFor (nginx : Nginx) (service : Service) : Prop where
  named : service.metadata.name = some nginx.serviceName
  spec : service.spec = nginx.desiredService.spec

variable {nginx other : Nginx} {service : Service} {deployment : Deployment}

theorem BuiltFor.of_stamps {key : ObjectKey} {document : Json}
    (stamps : Stamps key nginx.desiredService.toJson.received document) :
    ∃ kept, ofJson? document.received = some kept ∧ kept.BuiltFor nginx := by
  obtain ⟨kept, version, reading, metadata, spec⟩ := ofJson?_stamped stamps
  refine ⟨kept, reading, ?_, spec⟩
  rw [metadata]
  rfl

/-- A service selects the pods of a deployment exactly if both were built for one name. -/
theorem BuiltFor.selects_iff (built : service.BuiltFor nginx) (runs : deployment.BuiltFor other) :
    service.Selects deployment ↔ other.name = nginx.name := by
  have selector : service.spec.bind ServiceSpec.selector = some (labelsFor nginx.name) := by
    rw [built.spec]
    rfl
  unfold Selects
  rw [selector, runs.podLabels?]
  constructor
  · rintro ⟨_, _, selects, carries, satisfied⟩
    cases selects
    cases carries
    exact labelsFor_satisfy_iff.mp satisfied
  · intro same
    exact ⟨_, _, rfl, rfl, labelsFor_satisfy_iff.mpr same⟩

/-- A service that was built leads to one port of any deployment that was built. -/
theorem BuiltFor.targetsOnePort (built : service.BuiltFor nginx)
    (runs : deployment.BuiltFor other) : service.TargetsOnePort deployment := by
  have ports : service.spec.bind ServiceSpec.ports =
      some [{ name := some httpPortName, port := httpPort,
              targetPort := some (.text httpPortName) }] := by
    rw [built.spec]
    rfl
  refine ⟨_, _, _, { name := some httpPortName, containerPort := httpPort }, ports, rfl,
    runs.podSpec?, ?_⟩
  simp [PodSpec.portsNamed, Nginx.desiredContainer]

end Service

end NginxFleet
