/-
Module: NginxFleet.Proofs.Overlap.Dependents
Layer: Proofs
Purpose: Any number of runs that bring the objects of one instance in line, with their requests in any
  order, against a server that detects conflicts. What carries the argument is the winner: a run that
  is past the deployment. As long as there is none, the deployment that a run read is the one that is
  stored, so its replacement meets no conflict; once there is one, the deployment is in line and stays
  so, whoever writes it. A run that meets a conflict thus leaves a winner behind, which ends well.
Main exports: Aligned, Point.Past, Knows, Evolves, Advances, Knows.evolve, Call.advances
-/
import NginxFleet.Proofs.Overlap.Interleaving
import NginxFleet.Proofs.Reconcile.Versions
import NginxFleet.Proofs.Server.Versioned

namespace NginxFleet

open Json

section Invariant

variable (nginx : Nginx)

/-- The deployment is there and in line. -/
def Aligned (store : ObjectStore) : Prop :=
  ∃ document existing, store.get? nginx.deploymentKey = some document ∧
    Deployment.ofJson? document.received = some existing ∧
    existing.ownedFields = nginx.desiredDeployment.ownedFields

/-- The deployment that is stored is the one of which a repair was made. -/
def Unrepaired (store : ObjectStore) (repaired : Deployment) : Prop :=
  ∃ document existing, store.get? nginx.deploymentKey = some document ∧
    Deployment.ofJson? document.received = some existing ∧
    existing.repair? nginx.desiredDeployment = some repaired

/-- A run is past the deployment: it goes on with the service, or has ended well. -/
def Point.Past : Point → Prop
  | .pending .createService | .ended (.ok ()) => True
  | _ => False

/-- What holds of the store when a run is at a point. Whether there is a winner is known. -/
def Knows (store : ObjectStore) (won : Prop) : Point → Prop
  | .pending .createDeployment => True
  | .pending .fetchDeployment => (store.get? nginx.deploymentKey).isSome
  | .pending (.replaceDeployment repaired) =>
    repaired.Sendable ∧ repaired.InLine nginx ∧ (store.get? nginx.deploymentKey).isSome ∧
      (Unrepaired nginx store repaired ∨ won)
  | .pending .createService => Aligned nginx store
  | .pending .listPods | .pending (.recordPods _) => False
  | .ended (.ok ()) => Aligned nginx store ∧ (store.get? nginx.serviceKey).isSome
  | .ended (.error error) =>
    error = .update .deployment (Call.outdated nginx.deploymentKey) ∧ won

/-- How a store may change while a run makes a call: the deployment is left alone, or brought in line
    by a winner, and a service stays. -/
structure Evolves (store next : ObjectStore) (won : Prop) : Prop where
  deployment : next.get? nginx.deploymentKey = store.get? nginx.deploymentKey ∨
    Aligned nginx next ∧ won
  service : (store.get? nginx.serviceKey).isSome → (next.get? nginx.serviceKey).isSome

/-- What a call does to the run that makes it and to the store. -/
structure Advances (store next : ObjectStore) (won : Prop) (call : Call) (point : Point) :
    Prop where
  evolves : Evolves nginx store next (won ∨ point.Past)
  knows : Knows nginx next (won ∨ point.Past) point
  past : (Point.pending call).Past → point.Past

end Invariant

section Calls

variable {nginx : Nginx} {store next : ObjectStore} {won : Prop}

theorem Aligned.present (aligned : Aligned nginx store) :
    (store.get? nginx.deploymentKey).isSome := by
  obtain ⟨document, existing, found, -⟩ := aligned
  simp [found]

theorem Evolves.aligned (evolves : Evolves nginx store next won) (aligned : Aligned nginx store) :
    Aligned nginx next := by
  rcases evolves.deployment with same | ⟨aligned, -⟩
  · unfold Aligned
    rw [same]
    exact aligned
  · exact aligned

theorem Evolves.present (evolves : Evolves nginx store next won)
    (present : (store.get? nginx.deploymentKey).isSome) :
    (next.get? nginx.deploymentKey).isSome := by
  rcases evolves.deployment with same | ⟨aligned, -⟩
  · rw [same]
    exact present
  · exact aligned.present

/-- What a run knows stays true while another one makes a call. -/
theorem Knows.evolve {later : Prop} {point : Point} (knows : Knows nginx store won point)
    (evolves : Evolves nginx store next later) (wins : won → later) :
    Knows nginx next later point := by
  cases point with
  | ended result =>
      cases result with
      | ok value => exact ⟨evolves.aligned knows.1, evolves.service knows.2⟩
      | error error => exact ⟨knows.1, wins knows.2⟩
  | pending call =>
      cases call with
      | createDeployment => trivial
      | fetchDeployment => exact evolves.present knows
      | createService => exact evolves.aligned knows
      | listPods => exact knows
      | recordPods pods => exact knows
      | replaceDeployment repaired =>
          obtain ⟨sendable, inLine, present, unrepaired | winner⟩ := knows
          · refine ⟨sendable, inLine, evolves.present present, ?_⟩
            rcases evolves.deployment with same | ⟨-, winner⟩
            · refine .inl ?_
              unfold Unrepaired
              rw [same]
              exact unrepaired
            · exact .inr winner
          · exact ⟨sendable, inLine, evolves.present present, .inr (wins winner)⟩

theorem Knows.mono {later : Prop} {point : Point} (knows : Knows nginx store won point)
    (wins : won → later) : Knows nginx store later point :=
  knows.evolve ⟨.inl rfl, fun present => present⟩ wins

/-!
### One call

What each call does, from what the run knew before it.
-/

/-- A deployment that is stored with a version is in line, and can be read. -/
theorem Aligned.put {sent : Deployment} (sendable : sent.Sendable) (inLine : sent.InLine nginx)
    (version : String) :
    Aligned nginx (store.put nginx.deploymentKey (sent.toJson.received.withVersion version)) := by
  have stamps : Stamps nginx.deploymentKey sent.toJson.received
      (sent.toJson.received.withVersion version) := .inr ⟨version, rfl⟩
  obtain ⟨kept, reading, same⟩ := Deployment.ownedFields_stamped sendable inLine stamps
  refine ⟨_, kept, ?_, reading, same⟩
  rw [ObjectStore.get?_put, if_pos rfl]

theorem readDocument_withVersion {sent : Deployment} (sendable : sent.Sendable)
    (inLine : sent.InLine nginx) (version : String) :
    ∃ kept, readDocument Deployment.ofJson? (sent.toJson.received.withVersion version) =
      .ok kept := by
  have stamps : Stamps nginx.deploymentKey sent.toJson.received
      (sent.toJson.received.withVersion version) := .inr ⟨version, rfl⟩
  obtain ⟨kept, reading, -⟩ := Deployment.ownedFields_stamped sendable inLine stamps
  exact ⟨kept, by simp [readDocument, reading]⟩

/-- A run that stores the deployment wins. -/
theorem Advances.put_deployment {call : Call} {sent : Deployment} (sendable : sent.Sendable)
    (inLine : sent.InLine nginx) (version : String) :
    Advances nginx store
      (store.put nginx.deploymentKey (sent.toJson.received.withVersion version)) won call
      (.pending .createService) := by
  have aligned : Aligned nginx
      (store.put nginx.deploymentKey (sent.toJson.received.withVersion version)) :=
    .put sendable inLine version
  refine ⟨⟨.inr ⟨aligned, .inr trivial⟩, ?_⟩, aligned, fun _ => trivial⟩
  intro present
  rw [ObjectStore.get?_put, if_neg nginx.serviceKey_ne_deploymentKey]
  exact present

/-- A run that leaves the store as it is moves to a point at which it knows what it must. -/
theorem Advances.stay {call : Call} {point : Point}
    (knows : Knows nginx store (won ∨ point.Past) point)
    (past : (Point.pending call).Past → point.Past) :
    Advances nginx store store won call point :=
  ⟨⟨.inl rfl, fun present => present⟩, knows, past⟩

theorem advances_createDeployment {version : String} {result : Except ClientError Reply}
    (effect : Call.createDeployment.effect (fun _ body => body.withVersion version) nginx store =
      (result, next)) :
    Advances nginx store next won .createDeployment
      (Call.createDeployment.after Call.aboutDependents nginx result) := by
  rcases Call.create_cases rfl rfl effect with
    ⟨document, found, rfl, rfl⟩ | ⟨-, document, rfl, rfl, rfl⟩
  · refine .stay ?_ False.elim
    show (next.get? nginx.deploymentKey).isSome
    simp [found]
  · obtain ⟨kept, reading⟩ := readDocument_withVersion nginx.sendable_desiredDeployment
      (Deployment.inLine_desiredDeployment nginx) version
    rw [Call.readReply, reading]
    exact .put_deployment nginx.sendable_desiredDeployment
      (Deployment.inLine_desiredDeployment nginx) version

theorem advances_fetchDeployment {finish : ObjectKey → Json → Json}
    {result : Except ClientError Reply}
    (readable : ∀ document, store.get? nginx.deploymentKey = some document →
      (Deployment.ofJson? document.received).isSome)
    (present : (store.get? nginx.deploymentKey).isSome)
    (effect : Call.fetchDeployment.effect finish nginx store = (result, next)) :
    Advances nginx store next won .fetchDeployment
      (Call.fetchDeployment.after Call.aboutDependents nginx result) := by
  obtain ⟨document, found⟩ := Option.isSome_iff_exists.mp present
  obtain ⟨existing, reading⟩ := Option.isSome_iff_exists.mp (readable document found)
  unfold Call.effect at effect
  simp only [found, readDocument, reading] at effect
  obtain ⟨rfl, rfl⟩ := Prod.mk.inj effect
  simp only [Call.after, Call.failure?, Except.map, Call.followUp?]
  cases repair : existing.repair? nginx.desiredDeployment with
  | none =>
      refine .stay ?_ False.elim
      exact ⟨document, existing, found, reading, Deployment.repair?_eq_none_iff.mp repair⟩
  | some repaired =>
      refine .stay ?_ False.elim
      exact ⟨Deployment.sendable_of_repair? reading repair, Deployment.inLine_of_repair? repair,
        present, .inl ⟨document, existing, found, reading, repair⟩⟩

theorem advances_replaceDeployment {version : String} {repaired : Deployment}
    {result : Except ClientError Reply} (sendable : repaired.Sendable)
    (inLine : repaired.InLine nginx) (present : (store.get? nginx.deploymentKey).isSome)
    (effect : (Call.replaceDeployment repaired).effect (fun _ body => body.withVersion version)
      nginx store = (result, next)) :
    Advances nginx store next won (.replaceDeployment repaired)
      ((Call.replaceDeployment repaired).after Call.aboutDependents nginx result) := by
  obtain ⟨document, found⟩ := Option.isSome_iff_exists.mp present
  unfold Call.effect at effect
  rw [found] at effect
  obtain ⟨rfl, rfl⟩ := Prod.mk.inj effect
  obtain ⟨kept, reading⟩ := readDocument_withVersion sendable inLine version
  rw [reading]
  exact .put_deployment sendable inLine version

theorem advances_createService {version : String} {result : Except ClientError Reply}
    (aligned : Aligned nginx store)
    (effect : Call.createService.effect (fun _ body => body.withVersion version) nginx store =
      (result, next)) :
    Advances nginx store next won .createService
      (Call.createService.after Call.aboutDependents nginx result) := by
  rcases Call.create_cases rfl rfl effect with
    ⟨document, found, rfl, rfl⟩ | ⟨-, document, rfl, rfl, rfl⟩
  · refine .stay ?_ fun _ => trivial
    exact ⟨aligned, by simp [found]⟩
  · have stamps : Stamps nginx.serviceKey nginx.desiredService.toJson.received
        (nginx.desiredService.toJson.received.withVersion version) := .inr ⟨version, rfl⟩
    obtain ⟨kept, reading⟩ := Option.isSome_iff_exists.mp (Service.isSome_stamped stamps)
    simp only [Call.readReply, readDocument, reading]
    have evolves : Evolves nginx store (store.put nginx.serviceKey
        (nginx.desiredService.toJson.received.withVersion version)) (won ∨ True) := by
      refine ⟨.inl ?_, fun _ => ?_⟩
      · rw [ObjectStore.get?_put, if_neg nginx.serviceKey_ne_deploymentKey.symm]
      · simp [ObjectStore.get?_put]
    refine ⟨evolves, ⟨evolves.aligned aligned, ?_⟩, fun _ => trivial⟩
    simp [ObjectStore.get?_put]

/-- A repair names the version of the deployment that was read. -/
theorem version_of_repair? {document : Json} {existing repaired : Deployment}
    (reading : Deployment.ofJson? document.received = some existing)
    (repair : existing.repair? nginx.desiredDeployment = some repaired) :
    repaired.toJson.received.metadataText? "resourceVersion" =
      document.metadataText? "resourceVersion" := by
  rw [metadataText?_received, Deployment.metadataText?_toJson, ObjectMeta.resourceVersion_toJson,
    Deployment.metadata_of_repair? repair, ← Deployment.metadataText?_resourceVersion reading,
    metadataText?_received]

/-- Whatever call a run makes, the run and the store advance. -/
theorem Call.advances (admissible : nginx.Admissible) {call : Call} {state after : VersionedStore}
    {outcome : Outcome}
    (readable : ∀ document, state.store.get? nginx.deploymentKey = some document →
      (Deployment.ofJson? document.received).isSome)
    (knows : Knows nginx state.store won (.pending call))
    (served : state.Serves (call.sent nginx) outcome after) :
    Advances nginx state.store after.store won call
      (call.after Call.aboutDependents nginx (call.read outcome)) := by
  rcases served.effect admissible with
    ⟨version, effect⟩ | ⟨repaired, document, version, rfl, found, named, other, read, same⟩
  · cases call with
    | createDeployment => exact advances_createDeployment effect
    | fetchDeployment => exact advances_fetchDeployment readable knows effect
    | replaceDeployment repaired =>
        obtain ⟨sendable, inLine, present, -⟩ := knows
        exact advances_replaceDeployment sendable inLine present effect
    | createService => exact advances_createService knows effect
    | listPods => exact knows.elim
    | recordPods pods => exact knows.elim
  · rw [read, same]
    obtain ⟨-, -, -, ⟨stored, existing, held, reading, repair⟩ | winner⟩ := knows
    · rw [found] at held
      cases held
      rw [version_of_repair? reading repair] at named
      exact absurd named other
    · exact .stay ⟨rfl, .inl winner⟩ False.elim

end Calls

end NginxFleet
