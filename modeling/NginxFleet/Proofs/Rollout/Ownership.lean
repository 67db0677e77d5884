/-
Module: NginxFleet.Proofs.Rollout.Ownership
Layer: Proofs
Purpose: Who owns the deployment of an instance. A deployment that the operator creates belongs to the
  instance. One that was there before is adopted: its number of pods and its template are brought in
  line, but its metadata, owners included, stay what they were. So a deployment that an earlier
  instance of the same name left behind is never owned by the later one.
Main exports: Deployment.ControlledBy, Settled.ownerReferences, adoption_keeps_owners
-/
import NginxFleet.Proofs.Convergence.Retry
import NginxFleet.Proofs.Rollout.Settled

namespace NginxFleet

/-- A deployment names an instance as the controller that owns it. -/
def Deployment.ControlledBy (deployment : Deployment) (nginx : Nginx) : Prop :=
  ∃ owners owner, deployment.metadata.ownerReferences = some owners ∧ owner ∈ owners ∧
    owner.controller = some true ∧ owner.kind = Nginx.kind ∧
    nginx.metadata.name = some owner.name ∧ nginx.metadata.uid = some owner.uid

/-- The owners of the deployment that is read under a key, if there is one. -/
def ObjectStore.ownersAt? (store : ObjectStore) (key : ObjectKey) :
    Option (Option (List OwnerReference)) :=
  ((store.get? key).bind fun document => Deployment.ofJson? document.received).map
    fun deployment => deployment.metadata.ownerReferences

section Settled

variable {nginx : Nginx} {store final : ObjectStore} {calls : List Call}

theorem Deployment.ownerReferences_stamped {key : ObjectKey} {sent : Deployment} {document : Json}
    (sendable : sent.Sendable) (stamps : Stamps key sent.toJson.received document) :
    (store.put key document).ownersAt? key = some sent.metadata.ownerReferences := by
  obtain ⟨kept, version, reading, metadata, -, -⟩ := ofJson?_stamped sendable stamps
  simp only [ObjectStore.ownersAt?, ObjectStore.get?_put, if_true, Option.bind_some, reading,
    Option.map_some, metadata]
  rfl

/-- Bringing the deployment in line leaves the owners that it has, and gives one that is created the
    instance as its owner. -/
theorem Settled.ownerReferences (settled : Settled Stamps nginx store calls final) :
    final.ownersAt? nginx.deploymentKey =
      match store.get? nginx.deploymentKey with
      | none => some (nginx.ownerReference?.map fun owner => [owner])
      | some _ => store.ownersAt? nginx.deploymentKey := by
  cases settled with
  | created free stamps =>
      rw [free, Deployment.ownerReferences_stamped nginx.sendable_desiredDeployment stamps]
      rfl
  | kept found reading aligned => rw [found]
  | @repaired _ _ existing repaired found reading repair stamps =>
      have sendable := Deployment.sendable_of_repair? reading repair
      rw [found, Deployment.ownerReferences_stamped sendable stamps,
        Deployment.metadata_of_repair? repair]
      simp only [ObjectStore.ownersAt?, found, Option.bind_some, reading, Option.map_some]

end Settled

section Run

variable {σ : Type} {answer : σ → Request → Outcome × σ} {view : σ → ObjectStore} {nginx : Nginx}
  {state : σ}

/-- A run that brings the deployment in line ends well, and the owners of the deployment are
    afterwards those that it had, or the instance if there was no deployment. -/
theorem reconcileDeployment_ownersAt? (serves : Through (Serves Stamps) view answer)
    (admissible : nginx.Admissible)
    (readable : ∀ document, (view state).get? nginx.deploymentKey = some document →
      (Deployment.ofJson? document.received).isSome) :
    let transcript := (reconcileDeployment nginx).run answer state
    transcript.result = .ok () ∧
      (view transcript.state).ownersAt? nginx.deploymentKey =
        match (view state).get? nginx.deploymentKey with
        | none => some (nginx.ownerReference?.map fun owner => [owner])
        | some _ => (view state).ownersAt? nginx.deploymentKey := by
  obtain ⟨ended, calls, -, settled⟩ := reconcileDeployment_settles serves admissible
    (keeps_stamps nginx) readable
  exact ⟨ended, settled.ownerReferences⟩

theorem ObjectStore.ownersAt?_eq_some_iff {store : ObjectStore} {key : ObjectKey}
    {owners : Option (List OwnerReference)} :
    store.ownersAt? key = some owners ↔
      ∃ document kept, store.get? key = some document ∧
        Deployment.ofJson? document.received = some kept ∧
        kept.metadata.ownerReferences = owners := by
  unfold ownersAt?
  simp only [Option.map_eq_some_iff, Option.bind_eq_some_iff]
  constructor
  · rintro ⟨kept, ⟨document, found, reading⟩, same⟩
    exact ⟨document, kept, found, reading, same⟩
  · rintro ⟨document, kept, found, reading, same⟩
    exact ⟨kept, ⟨document, found, reading⟩, same⟩

/-- Whether an instance controls a deployment can be told from the owners. -/
theorem Deployment.ControlledBy.congr {deployment other : Deployment}
    (controlled : deployment.ControlledBy nginx)
    (same : other.metadata.ownerReferences = deployment.metadata.ownerReferences) :
    other.ControlledBy nginx := by
  unfold ControlledBy
  rw [same]
  exact controlled

theorem Deployment.controlledBy_of_ownerReference? {deployment : Deployment}
    (admissible : nginx.Admissible) (identified : nginx.metadata.uid.isSome)
    (owned : deployment.metadata.ownerReferences =
      nginx.ownerReference?.map fun owner => [owner]) : deployment.ControlledBy nginx := by
  obtain ⟨name, named, -⟩ := admissible.name
  obtain ⟨uid, identity⟩ := Option.isSome_iff_exists.mp identified
  simp only [Nginx.ownerReference?, named, identity, Option.map_some] at owned
  exact ⟨_, _, owned, List.mem_cons_self, rfl, rfl, named, identity⟩

/-- A run that brings the deployment of an instance in line ends well. The instance controls the
    deployment afterwards exactly if it did so before or there was none: a deployment that is found
    keeps the owners that it has, whoever they are. -/
theorem adoption_keeps_owners (serves : Through (Serves Stamps) view answer)
    (admissible : nginx.Admissible) (identified : nginx.metadata.uid.isSome)
    (readable : ∀ document, (view state).get? nginx.deploymentKey = some document →
      (Deployment.ofJson? document.received).isSome) :
    let transcript := (reconcileDeployment nginx).run answer state
    transcript.result = .ok () ∧
      ∃ document kept, (view transcript.state).get? nginx.deploymentKey = some document ∧
        Deployment.ofJson? document.received = some kept ∧
        (kept.ControlledBy nginx ↔ ∀ found existing,
          (view state).get? nginx.deploymentKey = some found →
          Deployment.ofJson? found.received = some existing → existing.ControlledBy nginx) := by
  obtain ⟨ended, owners⟩ := reconcileDeployment_ownersAt? serves admissible readable
  refine ⟨ended, ?_⟩
  cases before : (view state).get? nginx.deploymentKey with
  | none =>
      rw [before] at owners
      obtain ⟨document, kept, stored, reading, same⟩ :=
        ObjectStore.ownersAt?_eq_some_iff.mp owners
      refine ⟨document, kept, stored, reading, ?_⟩
      simp [Deployment.controlledBy_of_ownerReference? admissible identified same]
  | some found =>
      obtain ⟨existing, read⟩ := Option.isSome_iff_exists.mp (readable found before)
      have held : (view state).ownersAt? nginx.deploymentKey =
          some existing.metadata.ownerReferences :=
        ObjectStore.ownersAt?_eq_some_iff.mpr ⟨found, existing, before, read, rfl⟩
      simp only [before, held] at owners
      obtain ⟨document, kept, stored, reading, same⟩ :=
        ObjectStore.ownersAt?_eq_some_iff.mp owners
      refine ⟨document, kept, stored, reading, ?_⟩
      constructor
      · intro controlled _ other isFound reads
        cases isFound
        rw [read] at reads
        cases reads
        exact controlled.congr same.symm
      · intro controlled
        exact (controlled found existing rfl read).congr same

end Run

/-- A deployment that belongs to an earlier instance of the same name. -/
def leftoverDeployment : Json := .obj [
  ("metadata", .obj [("ownerReferences", .arr [.obj [
    ("apiVersion", .str Nginx.apiVersion), ("controller", .bool true),
    ("kind", .str Nginx.kind), ("name", .str "web"), ("uid", .str "u0")]])]),
  ("spec", .obj [("replicas", .int 7)])]

/-- A store that holds the deployment that is left over. -/
def leftoverStore : ObjectStore :=
  ObjectStore.put {} declaredNginx.deploymentKey leftoverDeployment

theorem get?_leftoverStore :
    leftoverStore.get? declaredNginx.deploymentKey = some leftoverDeployment := by
  rw [leftoverStore, ObjectStore.get?_put, if_pos rfl]

theorem owners_leftoverDeployment :
    (Deployment.ofJson? leftoverDeployment.received).map
        (fun deployment => deployment.metadata.ownerReferences) =
      some (some [{
        apiVersion := Nginx.apiVersion, controller := some true, kind := Nginx.kind,
        name := "web", uid := "u0" }]) :=
  rfl

theorem readable_leftoverDeployment :
    (Deployment.ofJson? leftoverDeployment.received).isSome :=
  rfl

theorem readable_leftoverStore (document : Json)
    (found : leftoverStore.get? declaredNginx.deploymentKey = some document) :
    (Deployment.ofJson? document.received).isSome := by
  rw [get?_leftoverStore] at found
  have same : document = leftoverDeployment := (Option.some.inj found).symm
  rw [same]
  exact readable_leftoverDeployment

/-- The instance adopts a deployment whose owner is gone. -/
theorem adoption_keeps_owners_leftover :
    let transcript := (reconcileDeployment declaredNginx).run ObjectStore.serve leftoverStore
    transcript.result = .ok () ∧
      ∃ document kept, transcript.state.get? declaredNginx.deploymentKey = some document ∧
        Deployment.ofJson? document.received = some kept ∧
        (kept.ControlledBy declaredNginx ↔ ∀ found existing,
          leftoverStore.get? declaredNginx.deploymentKey = some found →
          Deployment.ofJson? found.received = some existing →
            existing.ControlledBy declaredNginx) := by
  have kept := adoption_keeps_owners through_serve_stamps admissible_declaredNginx rfl
    readable_leftoverStore
  exact kept

/-- A run that ends well may leave an instance with a deployment that it does not control. -/
theorem leftover_deployment_not_controlled :
    (∀ document, leftoverStore.get? declaredNginx.deploymentKey = some document →
      (Deployment.ofJson? document.received).isSome) ∧
    declaredNginx.metadata.name = some "web" ∧ declaredNginx.metadata.uid = some "u1" ∧
    let transcript := (reconcileDeployment declaredNginx).run ObjectStore.serve leftoverStore
    transcript.result = .ok () ∧
      ∃ document kept, transcript.state.get? declaredNginx.deploymentKey = some document ∧
        Deployment.ofJson? document.received = some kept ∧
        ¬ kept.ControlledBy declaredNginx := by
  obtain ⟨ended, owners⟩ := reconcileDeployment_ownersAt? through_serve_stamps
    admissible_declaredNginx readable_leftoverStore
  simp only [get?_leftoverStore, ObjectStore.ownersAt?, Option.bind_some,
    owners_leftoverDeployment] at owners
  obtain ⟨document, kept, stored, reading, same⟩ := ObjectStore.ownersAt?_eq_some_iff.mp owners
  refine ⟨readable_leftoverStore, rfl, rfl, ended, document, kept, stored, reading, ?_⟩
  rintro ⟨owners, owner, given, among, -, -, -, identity⟩
  rw [same] at given
  cases given
  rw [List.mem_singleton.mp among] at identity
  exact absurd identity (by decide)

end NginxFleet
