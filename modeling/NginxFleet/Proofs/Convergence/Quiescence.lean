/-
Module: NginxFleet.Proofs.Convergence.Quiescence
Layer: Proofs
Purpose: Once an instance is handled, handling it again changes nothing. The server may fill in what a
  deployment or a service leaves unset, as long as the result can be read and what is compared does
  not grow. A store at rest is one in which every call of an instance finds what it wants: then the
  calls are the four that look, and none that writes. A dispatch leaves such a store.
Main exports: Fills, keeps_fills, AtRest, AtRest.step, AtRest.walk, Done.atRest, dispatch_quiesces
-/
import NginxFleet.Proofs.Convergence.Run
import NginxFleet.Proofs.Reconcile.Defaults

namespace NginxFleet

open Json

/-!
### Servers that fill in defaults
-/

/-- A deployment is stored with fields filled in: it is still a deployment, and what is compared of it
    has not grown. -/
structure FillsDeployment (body document : Json) : Prop where
  filled : body.FilledBy document
  typed : ∀ sent, Deployment.ofJson? body.received = some sent →
    ∃ kept, Deployment.ofJson? document.received = some kept ∧ kept.outline = sent.outline

/-- A service is stored with fields filled in: it is still a service. -/
structure FillsService (body document : Json) : Prop where
  filled : body.FilledBy document
  typed : (Service.ofJson? body.received).isSome → (Service.ofJson? document.received).isSome

/-- A document is stored with fields filled in if it is a deployment or a service, else as it came. -/
def Fills (key : ObjectKey) (body document : Json) : Prop :=
  if key.collection = "deployments" then FillsDeployment body document
  else if key.collection = "services" then FillsService body document
  else document = body

/-- A server that fills in defaults keeps what the operator looks at. -/
theorem keeps_fills (nginx : Nginx) : Keeps Fills nginx where
  deployment := by
    intro sent document sendable inLine fills
    obtain ⟨filled, typed⟩ : FillsDeployment sent.toJson.received document := fills
    obtain ⟨kept, reading, outline⟩ := typed _ (Deployment.ofJson?_stored sendable)
    have written : sent.toJson.received.received = sent.received.received.toJson := by
      rw [Deployment.received_toJson sendable, Deployment.received_toJson sendable.received]
    have stays := filled.received
    rw [written] at stays
    exact ⟨kept, reading,
      Deployment.ownedFields_of_filledBy inLine.received.received stays reading outline⟩
  service := by
    intro document fills
    obtain ⟨filled, typed⟩ : FillsService nginx.desiredService.toJson.received document := fills
    apply typed
    rw [nginx.received_desiredService, nginx.received_desiredService,
      Service.ofJson?_toJson nginx.plain_desiredService]
    rfl
  recorded := by
    intro members pods document reading fills
    have same : document = setMember "status" (NginxStatus.toJson { pods }) (.obj members) := fills
    refine ⟨_, { nginx with status := some { pods } }, same, ?_, .withStatus _ nginx, rfl⟩
    rw [same]
    exact Nginx.ofJson?_recorded reading { pods }

/-!
### Stores at rest
-/

/-- The calls from one on that look and find nothing to do. -/
def Call.checks : Call → List Call
  | .createDeployment => [.createDeployment, .fetchDeployment, .createService, .listPods]
  | .fetchDeployment => [.fetchDeployment, .createService, .listPods]
  | .createService => [.createService, .listPods]
  | .listPods => [.listPods]
  | .replaceDeployment _ | .recordPods _ => []

/-- Every call of an instance finds what it wants: the deployment has not drifted, the service is
    there, and the pods are those recorded. -/
structure AtRest (nginx : Nginx) (store : ObjectStore) : Prop where
  deployment : ∃ document existing, store.get? nginx.deploymentKey = some document ∧
    Deployment.ofJson? document.received = some existing ∧
    existing.repair? nginx.desiredDeployment = none
  service : (store.get? nginx.serviceKey).isSome
  pods : ∃ pods, Pod.listOfJson? (nginx.podList store).received = some pods ∧
    podsChanged (observedPods pods) nginx.storedPods = false

section AtRest

variable {nginx : Nginx} {store : ObjectStore}

/-- A call that looks passes, leaves the store as it is, and is followed by the next one. -/
theorem AtRest.step (rest : AtRest nginx store) (finish : ObjectKey → Json → Json) {call next : Call}
    {later : List Call} (checks : call.checks = next :: later) :
    next = call ∧ ∃ result, call.effect finish nginx store = (result, store) ∧
      call.failure? result = none ∧
      match call.followUp? nginx result with
      | some following => following.checks = later ∧ later ≠ []
      | none => later = [] := by
  obtain ⟨document, existing, found, reading, aligned⟩ := rest.deployment
  obtain ⟨service, present⟩ := Option.isSome_iff_exists.mp rest.service
  obtain ⟨pods, listed, unchanged⟩ := rest.pods
  cases call with
  | createDeployment =>
      cases checks
      refine ⟨rfl, .error (Call.taken nginx.deploymentKey), ?_, rfl, rfl, by simp⟩
      simp only [Call.effect, found]
  | fetchDeployment =>
      cases checks
      refine ⟨rfl, .ok (.deployment existing), ?_, rfl, ?_⟩
      · simp only [Call.effect, found, readDocument, reading]
        rfl
      · simp [Call.followUp?, aligned, Call.checks]
  | createService =>
      cases checks
      refine ⟨rfl, .error (Call.taken nginx.serviceKey), ?_, rfl, rfl, by simp⟩
      simp only [Call.effect, present]
  | listPods =>
      cases checks
      refine ⟨rfl, .ok (.pods pods), ?_, rfl, ?_⟩
      · simp only [Call.effect, readDocument, listed]
        rfl
      · simp [Call.followUp?, unchanged]
  | replaceDeployment repaired => cases checks
  | recordPods pods => cases checks

/-- The same for a call that is made on any server over stores. -/
theorem AtRest.moves {finished : ObjectKey → Json → Json → Prop} (admissible : nginx.Admissible)
    (rest : AtRest nginx store) {record : CallRecord} {after : ObjectStore}
    (performed : Performs (Serves finished) nginx store record after)
    (looks : record.call.checks ≠ []) :
    after = store ∧ record.failure? = none ∧
      match record.next? Call.any nginx with
      | some following =>
        record.call.checks = record.call :: following.checks ∧ following.checks ≠ []
      | none => record.call.checks = [record.call] := by
  obtain ⟨first, later, checks⟩ := List.exists_cons_of_ne_nil looks
  obtain ⟨finish, -, effect⟩ := performed.effect admissible
  obtain ⟨rfl, result, same, passed, follows⟩ := rest.step finish checks
  rw [effect] at same
  cases same
  refine ⟨rfl, passed, ?_⟩
  rw [CallRecord.next?_any]
  cases more : record.call.followUp? nginx record.result with
  | none =>
      rw [more] at follows
      rw [checks, follows]
  | some following =>
      rw [more] at follows
      obtain ⟨rfl, nonempty⟩ := follows
      exact ⟨checks, nonempty⟩

/-- On a store at rest a walk makes the calls that look, ends well and leaves the store as it is. -/
theorem AtRest.walk {finished : ObjectKey → Json → Json → Prop} (admissible : nginx.Admissible)
    {call : Call} {records : List CallRecord} {result : Except OperatorError Unit}
    {final : ObjectStore} (rest : AtRest nginx store)
    (walk : Handles (Serves finished) nginx Call.any store call records result final)
    (looks : call.checks ≠ []) :
    result = .ok () ∧ final = store ∧ records.map CallRecord.call = call.checks := by
  induction walk with
  | failed performed failure =>
      obtain ⟨-, passed, -⟩ := rest.moves admissible performed looks
      rw [passed] at failure
      cases failure
  | ended performed passed last =>
      obtain ⟨same, -, checks⟩ := rest.moves admissible performed looks
      rw [last] at checks
      exact ⟨rfl, same, checks.symm⟩
  | continued performed passed more walk ih =>
      obtain ⟨rfl, -, checks⟩ := rest.moves admissible performed looks
      rw [more] at checks
      obtain ⟨ended, same, calls⟩ := ih rest checks.2
      exact ⟨ended, same, by rw [List.map_cons, calls, checks.1]⟩

/-- A deployment that is done has not drifted. -/
theorem Done.deployment_aligned {finished : ObjectKey → Json → Json → Prop} {start : ObjectStore}
    (readable : nginx.ReadableIn start) (keeps : Keeps finished nginx)
    (done : Done finished nginx start store nginx.deploymentKey) :
    ∃ document existing, store.get? nginx.deploymentKey = some document ∧
      Deployment.ofJson? document.received = some existing ∧
      existing.repair? nginx.desiredDeployment = none := by
  cases planned : nginx.plan start nginx.deploymentKey with
  | some body =>
      obtain ⟨document, found, allowed⟩ := (Done.of_plan_some planned).mp done
      rw [Nginx.plan_deploymentKey] at planned
      obtain ⟨sent, sendable, inLine, rfl⟩ := Nginx.sent_of_deploymentPlan planned
      obtain ⟨kept, reading, same⟩ := keeps.deployment sent document sendable inLine allowed
      exact ⟨document, kept, found, reading, Deployment.repair?_eq_none_iff.mpr same⟩
  | none =>
      rw [Done.of_plan_none planned] at done
      rw [Nginx.plan_deploymentKey, Nginx.deploymentPlan] at planned
      cases found : start.get? nginx.deploymentKey with
      | none => simp [found] at planned
      | some document =>
          obtain ⟨existing, reading⟩ :=
            Option.isSome_iff_exists.mp (readable.deployment document found)
          refine ⟨document, existing, done.trans found, reading, ?_⟩
          simpa [found, reading] using planned

/-- A service that is done is there. -/
theorem Done.service_present {finished : ObjectKey → Json → Json → Prop} {start : ObjectStore}
    (done : Done finished nginx start store nginx.serviceKey) :
    (store.get? nginx.serviceKey).isSome := by
  cases planned : nginx.plan start nginx.serviceKey with
  | some body =>
      obtain ⟨document, found, -⟩ := (Done.of_plan_some planned).mp done
      simp [found]
  | none =>
      rw [Done.of_plan_none planned] at done
      rw [Nginx.plan_serviceKey, Nginx.servicePlan] at planned
      cases found : start.get? nginx.serviceKey with
      | none => simp [found] at planned
      | some document => simp [done, found]

/-- A store in which the plan is carried out is at rest, for the instance as it is read again. -/
theorem Done.atRest {finished : ObjectKey → Json → Json → Prop} {start : ObjectStore}
    {snapshot : Nginx} (readable : nginx.ReadableIn start) (keeps : Keeps finished nginx)
    (done : ∀ key, Done finished nginx start store key) (renews : snapshot.Renews nginx)
    (unchanged : podsChanged (nginx.podsIn start) snapshot.storedPods = false) :
    AtRest snapshot store := by
  have progress : Progress finished nginx start store := fun key => .inr (done key)
  have deploymentKey : snapshot.deploymentKey = nginx.deploymentKey :=
    renews.apply Nginx.deploymentKey fun _ => rfl
  have serviceKey : snapshot.serviceKey = nginx.serviceKey :=
    renews.apply Nginx.serviceKey fun _ => rfl
  refine ⟨?_, ?_, ?_⟩
  · rw [deploymentKey, renews.desiredDeployment_eq]
    exact (done nginx.deploymentKey).deployment_aligned readable keeps
  · rw [serviceKey]
    exact (done nginx.serviceKey).service_present
  · obtain ⟨pods, reading⟩ := Option.isSome_iff_exists.mp readable.isSome_podList
    refine ⟨pods, ?_, ?_⟩
    · rw [renews.podList_eq, progress.podList_eq, reading]
    · simpa [Nginx.podsIn, reading] using unchanged

end AtRest

/-- Handling a stored instance ends well. Handling it again, as it is read afterwards, ends well too:
    it makes the four calls that look, none that writes, and leaves the store as it is. -/
theorem dispatch_quiesces {σ : Type} {answer : σ → Request → Outcome × σ} {store : σ → ObjectStore}
    (serves : Through (Serves Fills) store answer) {nginx : Nginx} (admissible : nginx.Admissible)
    (present : nginx.isDeleted = false) {state : σ} (readable : nginx.ReadableIn (store state)) :
    let first := (dispatch (.ofNginx nginx)).run answer state
    first.result = .ok () ∧
      ∃ snapshot, (store first.state).instanceAt? nginx.storeKey = some snapshot ∧
        let second := (dispatch (.ofNginx snapshot)).run answer first.state
        second.result = .ok () ∧
          second.requests = [Call.createDeployment, .fetchDeployment, .createService, .listPods].map
            (Call.sent snapshot) ∧
          store second.state = store first.state := by
  have keeps := keeps_fills nginx
  have started : Progress Fills nginx (store state) (store state) := .refl _ _ _
  obtain ⟨begun, read, fresh⟩ := started.resume readable keeps
  rw [readable.stored.instanceAt?] at read
  cases read
  obtain ⟨ended, done⟩ := started.settle serves admissible readable keeps present fresh
  obtain ⟨snapshot, stored, renews, unchanged⟩ := (done nginx.storeKey).resume readable keeps
  refine ⟨ended, snapshot, stored, ?_⟩
  have rest := Done.atRest readable keeps done renews unchanged
  have allowed := renews.admissible admissible
  rw [Notification.ofNginx_of_present (renews.isDeleted_eq.trans present)]
  obtain ⟨records, walk, exchanges⟩ := dispatch_walks answer snapshot
    ((dispatch (.ofNginx nginx)).run answer state).state
  obtain ⟨again, same, calls⟩ :=
    rest.walk allowed (serves.handles walk) (by simp [Call.checks])
  refine ⟨again, ?_, same⟩
  rw [Transcript.requests, exchanges, walk.requests_eq allowed]
  have sent := congrArg (List.map (Call.sent snapshot)) calls
  rw [List.map_map] at sent
  exact sent

/-- A deployment with an empty status if it has none. -/
def withDefaultStatus : Json → Json
  | .obj members =>
    if field "status" members = .null then .obj (withKey "status" (.obj []) members)
    else .obj members
  | other => other

/-- A server that gives deployments an empty status. -/
def defaulting (store : ObjectStore) (request : Request) : Outcome × ObjectStore :=
  store.serveWith (fun key body =>
    if key.collection = "deployments" then withDefaultStatus body else body) request

theorem fillsDeployment_withDefaultStatus (body : Json) :
    FillsDeployment body (withDefaultStatus body) := by
  have plain : FillsDeployment body body := ⟨.same body, fun sent reading => ⟨sent, reading, rfl⟩⟩
  cases body with
  | obj members =>
      by_cases unset : field "status" members = .null
      · rw [withDefaultStatus, if_pos unset]
        constructor
        · refine .members ?_
          intro key
          unfold field at unset ⊢
          rw [occurrences_withKey]
          split
          · rename_i same
            rw [same, unset]
            exact .unset _
          · exact .same _
        · intro sent reading
          refine ⟨{ sent with status := some {} }, ?_, rfl⟩
          rw [received, membersReceived_withKey]
          exact Deployment.ofJson?_withStatus reading
      · rw [withDefaultStatus, if_neg unset]
        exact plain
  | _ => exact plain

theorem through_defaulting : Through (Serves Fills) (fun store => store) defaulting := by
  intro store request
  refine ⟨_, ?_, rfl⟩
  intro key body
  unfold Fills
  split
  · exact fillsDeployment_withDefaultStatus body
  · split
    · exact ⟨.same body, fun readable => readable⟩
    · rfl

/-- The deployment that is repaired is given a status, which is no drift. -/
theorem dispatch_quiesces_defaulting :
    let first := (dispatch (.ofNginx declaredNginx)).run defaulting driftedStore
    first.result = .ok () ∧
      ∃ snapshot, first.state.instanceAt? declaredNginx.storeKey = some snapshot ∧
        let second := (dispatch (.ofNginx snapshot)).run defaulting first.state
        second.result = .ok () ∧
          second.requests = [Call.createDeployment, .fetchDeployment, .createService, .listPods].map
            (Call.sent snapshot) ∧
          second.state = first.state :=
  dispatch_quiesces through_defaulting admissible_declaredNginx rfl readableIn_driftedStore

end NginxFleet
