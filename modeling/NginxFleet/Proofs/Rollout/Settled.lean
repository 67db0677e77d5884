/-
Module: NginxFleet.Proofs.Rollout.Settled
Layer: Proofs
Purpose: What bringing the deployment of an instance in line makes of a store. A deployment that is not
  there is created, one that has not drifted is left alone, and one that has is replaced by its
  repair; on a server that keeps what it is sent readable there is no fourth case, and no failure.
Main exports: Walks, Handles.head, Handles.head_answered, Settled, Handles.settled,
  reconcileDeployment_settles
-/
import NginxFleet.Proofs.Convergence.Plan
import NginxFleet.Proofs.Protocol.Walk
import NginxFleet.Proofs.Server.Fault

namespace NginxFleet

/-!
### The first call of a walk
-/

section Head

variable {σ : Type} (serves : σ → Request → Outcome → σ → Prop) (nginx : Nginx)
  (scope : Call → Bool)

/-- The calls made from a point on, with the result and the state in the end. -/
def Walks (state : σ) (calls : List Call) (result : Except OperatorError Unit) (final : σ) :
    Point → Prop
  | .pending call =>
    ∃ records, Handles serves nginx scope state call records result final ∧
      records.map CallRecord.call = calls
  | .ended expected => calls = [] ∧ result = expected ∧ final = state

end Head

section After

variable {nginx : Nginx} {scope : Call → Bool} {record : CallRecord}

theorem CallRecord.after_of_failure {error : OperatorError}
    (failure : record.failure? = some error) :
    record.call.after scope nginx record.result = .ended (.error error) := by
  unfold CallRecord.failure? at failure
  rw [Call.after, failure]

theorem CallRecord.after_of_last (passed : record.failure? = none)
    (last : record.next? scope nginx = none) :
    record.call.after scope nginx record.result = .ended (.ok ()) := by
  unfold CallRecord.failure? at passed
  unfold CallRecord.next? at last
  simp only [Call.after, passed, Point.before, last]

theorem CallRecord.after_of_next {call : Call} (passed : record.failure? = none)
    (more : record.next? scope nginx = some call) :
    record.call.after scope nginx record.result = .pending call := by
  unfold CallRecord.failure? at passed
  unfold CallRecord.next? at more
  simp only [Call.after, passed, Point.before, more]

end After

/-- A walk makes its first call, and goes on from the point after it. -/
theorem Handles.head {σ : Type} {serves : σ → Request → Outcome → σ → Prop} {nginx : Nginx}
    {scope : Call → Bool} {state final : σ} {call : Call} {records : List CallRecord}
    {result : Except OperatorError Unit}
    (walk : Handles serves nginx scope state call records result final) :
    ∃ exchange? reply next later, Performs serves nginx state ⟨call, exchange?, reply⟩ next ∧
      records.map CallRecord.call = call :: later ∧
      Walks serves nginx scope next later result final (call.after scope nginx reply) := by
  cases walk with
  | @failed _ _ record error performed failure =>
      refine ⟨record.exchange?, record.result, final, [], performed, rfl, ?_⟩
      rw [CallRecord.after_of_failure failure]
      exact ⟨rfl, rfl, rfl⟩
  | @ended _ _ record performed passed last =>
      refine ⟨record.exchange?, record.result, final, [], performed, rfl, ?_⟩
      rw [CallRecord.after_of_last passed last]
      exact ⟨rfl, rfl, rfl⟩
  | @continued _ next _ record following later _ performed passed more rest =>
      refine ⟨record.exchange?, record.result, next, later.map CallRecord.call, performed, rfl, ?_⟩
      rw [CallRecord.after_of_next passed more]
      exact ⟨later, rest, rfl⟩

/-- Against a server that answers by a function, a walk goes on as the answer to its first call says. -/
theorem Handles.head_answered {σ : Type} {answer : σ → Request → Outcome × σ} {nginx : Nginx}
    {scope : Call → Bool} {state final : σ} {call : Call} {records : List CallRecord}
    {result : Except OperatorError Unit} (admissible : nginx.Admissible)
    (walk : Handles (Answers answer) nginx scope state call records result final) :
    ∃ later, records.map CallRecord.call = call :: later ∧
      Walks (Answers answer) nginx scope (answer state (call.sent nginx)).2 later result final
        (call.after scope nginx (call.read (answer state (call.sent nginx)).1)) := by
  obtain ⟨exchange?, reply, next, later, performed, calls, rest⟩ := walk.head
  obtain ⟨-, replied, reached⟩ := performed.answered (Call.request_eq_sent admissible call)
  rw [← replied, ← reached]
  exact ⟨later, calls, rest⟩

/-!
### The deployment
-/

/-- What bringing the deployment of an instance in line makes of a store, with the calls that do it. -/
inductive Settled (finished : ObjectKey → Json → Json → Prop) (nginx : Nginx) (store : ObjectStore) :
    List Call → ObjectStore → Prop where
  | created {document : Json} (free : store.get? nginx.deploymentKey = none)
      (allowed : finished nginx.deploymentKey nginx.desiredDeployment.toJson.received document) :
      Settled finished nginx store [.createDeployment] (store.put nginx.deploymentKey document)
  | kept {document : Json} {existing : Deployment}
      (found : store.get? nginx.deploymentKey = some document)
      (reading : Deployment.ofJson? document.received = some existing)
      (aligned : existing.repair? nginx.desiredDeployment = none) :
      Settled finished nginx store [.createDeployment, .fetchDeployment] store
  | repaired {document stored : Json} {existing repaired : Deployment}
      (found : store.get? nginx.deploymentKey = some document)
      (reading : Deployment.ofJson? document.received = some existing)
      (repair : existing.repair? nginx.desiredDeployment = some repaired)
      (allowed : finished nginx.deploymentKey repaired.toJson.received stored) :
      Settled finished nginx store
        [.createDeployment, .fetchDeployment, .replaceDeployment repaired]
        (store.put nginx.deploymentKey stored)

section Deployment

variable {finished : ObjectKey → Json → Json → Prop} {nginx : Nginx} {store final : ObjectStore}
  {records : List CallRecord} {calls : List Call} {result : Except OperatorError Unit}

/-- A walk on a store begins with the effect of its first call. -/
theorem Handles.head_effect {scope : Call → Bool} {call : Call} (admissible : nginx.Admissible)
    (walk : Handles (Serves finished) nginx scope store call records result final) :
    ∃ finish, (∀ key body, finished key body (finish key body)) ∧ ∃ later,
      records.map CallRecord.call = call :: later ∧
      Walks (Serves finished) nginx scope (call.effect finish nginx store).2 later result final
        (call.after scope nginx (call.effect finish nginx store).1) := by
  obtain ⟨exchange?, reply, next, later, performed, calls, rest⟩ := walk.head
  obtain ⟨finish, allowed, effect⟩ := performed.effect admissible
  refine ⟨finish, allowed, later, calls, ?_⟩
  rw [effect]
  exact rest

/-- A walk that is past the deployment has ended. -/
theorem Walks.past_deployment
    (walk : Walks (Serves finished) nginx Call.aboutDeployment store calls result final
      (.before Call.aboutDeployment (some .createService))) :
    calls = [] ∧ result = .ok () ∧ final = store :=
  walk

theorem Handles.replaces_deployment (admissible : nginx.Admissible) (keeps : Keeps finished nginx)
    {repaired : Deployment} (present : (store.get? nginx.deploymentKey).isSome)
    (sendable : repaired.Sendable) (inLine : repaired.InLine nginx)
    (walk : Handles (Serves finished) nginx Call.aboutDeployment store
      (.replaceDeployment repaired) records result final) :
    result = .ok () ∧ records.map CallRecord.call = [.replaceDeployment repaired] ∧
      ∃ stored, finished nginx.deploymentKey repaired.toJson.received stored ∧
        final = store.put nginx.deploymentKey stored := by
  obtain ⟨finish, allowed, later, calls, rest⟩ := walk.head_effect admissible
  obtain ⟨document, found⟩ := Option.isSome_iff_exists.mp present
  have finishes := allowed nginx.deploymentKey repaired.toJson.received
  obtain ⟨kept, reading, -⟩ := keeps.deployment repaired _ sendable inLine finishes
  simp only [Call.effect, found, readDocument, reading] at rest
  obtain ⟨rfl, rfl, rfl⟩ := rest.past_deployment
  exact ⟨rfl, calls, _, finishes, rfl⟩

theorem Handles.repairs_deployment (admissible : nginx.Admissible) (keeps : Keeps finished nginx)
    {document : Json} {existing : Deployment}
    (found : store.get? nginx.deploymentKey = some document)
    (reading : Deployment.ofJson? document.received = some existing)
    (walk : Handles (Serves finished) nginx Call.aboutDeployment store .fetchDeployment records
      result final) :
    result = .ok () ∧
      Settled finished nginx store (.createDeployment :: records.map CallRecord.call) final := by
  obtain ⟨finish, allowed, later, calls, rest⟩ := walk.head_effect admissible
  simp only [Call.effect, found, readDocument, reading, Except.map, Call.after, Call.failure?,
    Call.followUp?] at rest
  cases repair : existing.repair? nginx.desiredDeployment with
  | none =>
      rw [repair] at rest
      obtain ⟨rfl, rfl, rfl⟩ := rest.past_deployment
      rw [calls]
      exact ⟨rfl, .kept found reading repair⟩
  | some repaired =>
      rw [repair] at rest
      obtain ⟨records, walk, same⟩ : ∃ records, Handles (Serves finished) nginx
        Call.aboutDeployment store (.replaceDeployment repaired) records result final ∧
          records.map CallRecord.call = later := rest
      obtain ⟨rfl, replaced, stored, finishes, rfl⟩ := walk.replaces_deployment admissible keeps
        (by simp [found]) (Deployment.sendable_of_repair? reading repair)
        (Deployment.inLine_of_repair? repair)
      rw [calls, ← same, replaced]
      exact ⟨rfl, .repaired found reading repair finishes⟩

/-- Bringing the deployment in line ends well on a server that keeps what it is sent readable, and
    settles the deployment. -/
theorem Handles.settled (admissible : nginx.Admissible) (keeps : Keeps finished nginx)
    (readable : ∀ document, store.get? nginx.deploymentKey = some document →
      (Deployment.ofJson? document.received).isSome)
    (walk : Handles (Serves finished) nginx Call.aboutDeployment store .createDeployment records
      result final) :
    result = .ok () ∧ Settled finished nginx store (records.map CallRecord.call) final := by
  obtain ⟨finish, allowed, later, calls, rest⟩ := walk.head_effect admissible
  cases found : store.get? nginx.deploymentKey with
  | none =>
      have finishes := allowed nginx.deploymentKey nginx.desiredDeployment.toJson.received
      obtain ⟨kept, reading, -⟩ := keeps.deployment _ _ nginx.sendable_desiredDeployment
        (Deployment.inLine_desiredDeployment nginx) finishes
      simp only [Call.effect, found, readDocument, reading] at rest
      obtain ⟨rfl, rfl, rfl⟩ := rest.past_deployment
      rw [calls]
      exact ⟨rfl, .created found finishes⟩
  | some document =>
      obtain ⟨existing, reading⟩ := Option.isSome_iff_exists.mp (readable document found)
      simp only [Call.effect, found] at rest
      obtain ⟨records, walk, rfl⟩ : ∃ records, Handles (Serves finished) nginx
        Call.aboutDeployment store .fetchDeployment records result final ∧
          records.map CallRecord.call = later := rest
      rw [calls]
      exact walk.repairs_deployment admissible keeps found reading

/-- The same for a run of the operator, with the requests that it sends. -/
theorem reconcileDeployment_settles {σ : Type} {answer : σ → Request → Outcome × σ}
    {view : σ → ObjectStore} (serves : Through (Serves finished) view answer)
    (admissible : nginx.Admissible) (keeps : Keeps finished nginx) {state : σ}
    (readable : ∀ document, (view state).get? nginx.deploymentKey = some document →
      (Deployment.ofJson? document.received).isSome) :
    let transcript := (reconcileDeployment nginx).run answer state
    transcript.result = .ok () ∧
      ∃ calls, transcript.requests = calls.map (Call.sent nginx) ∧
        Settled finished nginx (view state) calls (view transcript.state) := by
  obtain ⟨records, walk, exchanges⟩ := reconcileDeployment_walks answer nginx state
  obtain ⟨ended, settled⟩ := (serves.handles walk).settled admissible keeps readable
  exact ⟨ended, records.map CallRecord.call, walk.sent_of_exchanges admissible exchanges, settled⟩

end Deployment

end NginxFleet
