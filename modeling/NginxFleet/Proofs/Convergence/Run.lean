/-
Module: NginxFleet.Proofs.Convergence.Run
Layer: Proofs
Purpose: Handling an instance carries out the plan. What each call can rely on is said call by call; one
  call then passes and leaves what the next one can rely on, and after the last one all keys are done.
  So a walk on a server without faults ends well with the plan carried out, and a walk that may be
  hit by faults at least keeps the progress, from which the instance can be read again and handled.
Main exports: Fresh, Due, Underway, Underway.step, Underway.settles, Underway.progresses,
  Done.resume, Progress.resume, Progress.attempt, Progress.settle
-/
import NginxFleet.Proofs.Convergence.Plan
import NginxFleet.Proofs.Protocol.Walk
import NginxFleet.Proofs.Server.Fault
import NginxFleet.Proofs.Status.Order

namespace NginxFleet

open Json

section Invariant

variable (finished : ObjectKey → Json → Json → Prop) (nginx : Nginx) (start : ObjectStore)

/-- A snapshot is as fresh as the store: the pods in it differ from those seen exactly while they are
    still to be recorded. -/
structure Fresh (snapshot : Nginx) (store : ObjectStore) : Prop where
  renews : snapshot.Renews nginx
  stale : podsChanged (nginx.podsIn start) snapshot.storedPods = true →
    snapshot.storedPods = nginx.storedPods ∧
      store.get? nginx.storeKey = start.get? nginx.storeKey
  current : podsChanged (nginx.podsIn start) snapshot.storedPods = false →
    Done finished nginx start store nginx.storeKey

/-- What a call can rely on when it comes next. -/
def Due (snapshot : Nginx) (store : ObjectStore) : Call → Prop
  | .createDeployment => True
  | .fetchDeployment => (store.get? nginx.deploymentKey).isSome
  | .replaceDeployment repaired =>
    (store.get? nginx.deploymentKey).isSome ∧ repaired.Sendable ∧ repaired.InLine nginx ∧
      nginx.plan start nginx.deploymentKey = some repaired.toJson.received
  | .createService => Done finished nginx start store nginx.deploymentKey
  | .listPods =>
    Done finished nginx start store nginx.deploymentKey ∧
      Done finished nginx start store nginx.serviceKey
  | .recordPods pods =>
    Done finished nginx start store nginx.deploymentKey ∧
      Done finished nginx start store nginx.serviceKey ∧
      pods = nginx.podsIn start ∧ podsChanged pods snapshot.storedPods = true

/-- A walk with a snapshot is on its way, and a call comes next. -/
structure Underway (snapshot : Nginx) (store : ObjectStore) (call : Call) : Prop where
  progress : Progress finished nginx start store
  fresh : Fresh finished nginx start snapshot store
  due : Due finished nginx start snapshot store call

/-- Where a walk stands: a call comes next, or the plan is carried out. -/
def Stands (snapshot : Nginx) (store : ObjectStore) : Option Call → Prop
  | some call => Underway finished nginx start snapshot store call
  | none => ∀ key, Done finished nginx start store key

/-- A call passes, and leaves the walk standing. -/
def Moves (finish : ObjectKey → Json → Json) (snapshot : Nginx) (store : ObjectStore)
    (call : Call) : Prop :=
  ∃ result next, call.effect finish nginx store = (result, next) ∧ call.failure? result = none ∧
    Stands finished nginx start snapshot next (call.followUp? snapshot result)

end Invariant

section Steps

variable {finished : ObjectKey → Json → Json → Prop} {nginx snapshot : Nginx}
  {start store : ObjectStore} {finish : ObjectKey → Json → Json}

/-- A snapshot stays fresh while other keys change. -/
theorem Fresh.put {key : ObjectKey} {document : Json} (other : nginx.storeKey ≠ key)
    (fresh : Fresh finished nginx start snapshot store) :
    Fresh finished nginx start snapshot (store.put key document) where
  renews := fresh.renews
  stale := by
    intro changed
    rw [ObjectStore.get?_put, if_neg other]
    exact fresh.stale changed
  current := fun unchanged => (fresh.current unchanged).put_of_ne other

/-- Each deployment that is planned is one that is sent and in line. -/
theorem Nginx.sent_of_deploymentPlan {body : Json}
    (planned : nginx.deploymentPlan start = some body) :
    ∃ sent : Deployment, sent.Sendable ∧ sent.InLine nginx ∧ body = sent.toJson.received := by
  unfold deploymentPlan at planned
  split at planned
  · cases planned
    exact ⟨_, nginx.sendable_desiredDeployment, Deployment.inLine_desiredDeployment nginx, rfl⟩
  · obtain ⟨repaired, found, rfl⟩ := Option.map_eq_some_iff.mp planned
    obtain ⟨existing, reading, repair⟩ := Option.bind_eq_some_iff.mp found
    exact ⟨repaired, Deployment.sendable_of_repair? reading repair,
      Deployment.inLine_of_repair? repair, rfl⟩

/-- The deployment can be read, and what a repair would do to it is what is still planned. -/
theorem Progress.reads_deployment (readable : nginx.ReadableIn start)
    (keeps : Keeps finished nginx) (progress : Progress finished nginx start store)
    {document : Json} (found : store.get? nginx.deploymentKey = some document) :
    ∃ existing, Deployment.ofJson? document.received = some existing ∧
      match existing.repair? nginx.desiredDeployment with
      | none => Done finished nginx start store nginx.deploymentKey
      | some repaired => repaired.Sendable ∧ repaired.InLine nginx ∧
        nginx.plan start nginx.deploymentKey = some repaired.toJson.received := by
  rcases progress.untouched_or_planned found with untouched | ⟨body, planned, allowed⟩
  · obtain ⟨existing, reading⟩ :=
      Option.isSome_iff_exists.mp (readable.deployment document untouched)
    have planned : nginx.plan start nginx.deploymentKey =
        (existing.repair? nginx.desiredDeployment).map fun repaired =>
          repaired.toJson.received := by
      simp [Nginx.plan_deploymentKey, Nginx.deploymentPlan, untouched, reading]
    refine ⟨existing, reading, ?_⟩
    cases repair : existing.repair? nginx.desiredDeployment with
    | none =>
        rw [repair] at planned
        exact progress.done_of_plan_none planned
    | some repaired =>
        rw [repair] at planned
        exact ⟨Deployment.sendable_of_repair? reading repair,
          Deployment.inLine_of_repair? repair, planned⟩
  · have done : Done finished nginx start store nginx.deploymentKey :=
      (Done.of_plan_some planned).mpr ⟨document, found, allowed⟩
    rw [Nginx.plan_deploymentKey] at planned
    obtain ⟨sent, sendable, inLine, rfl⟩ := Nginx.sent_of_deploymentPlan planned
    obtain ⟨kept, reading, same⟩ := keeps.deployment sent document sendable inLine allowed
    refine ⟨kept, reading, ?_⟩
    rw [Deployment.repair?_eq_none_iff.mpr same]
    exact done

variable (readable : nginx.ReadableIn start) (keeps : Keeps finished nginx)
  (allowed : ∀ key body, finished key body (finish key body))

include keeps allowed in
/-- Storing a planned deployment passes. -/
theorem Underway.stores_deployment {call : Call}
    (underway : Underway finished nginx start snapshot store call) {sent : Deployment}
    (sendable : sent.Sendable) (inLine : sent.InLine nginx)
    (planned : nginx.plan start nginx.deploymentKey = some sent.toJson.received) :
    (∃ kept, readDocument Deployment.ofJson?
        (finish nginx.deploymentKey sent.toJson.received) = .ok kept) ∧
      Underway finished nginx start snapshot
        (store.put nginx.deploymentKey (finish nginx.deploymentKey sent.toJson.received))
        .createService := by
  have stored := allowed nginx.deploymentKey sent.toJson.received
  obtain ⟨kept, reading, -⟩ := keeps.deployment sent _ sendable inLine stored
  constructor
  · exact ⟨kept, by simp [readDocument, reading]⟩
  · exact ⟨underway.progress.put planned stored,
      underway.fresh.put nginx.storeKey_ne_deploymentKey, Done.put planned stored⟩

include keeps allowed in
theorem moves_createDeployment
    (underway : Underway finished nginx start snapshot store .createDeployment) :
    Moves finished nginx start finish snapshot store .createDeployment := by
  unfold Moves Call.effect
  cases found : store.get? nginx.deploymentKey with
  | some document =>
      refine ⟨_, _, rfl, rfl, ?_⟩
      exact ⟨underway.progress, underway.fresh, by simp [Due, found]⟩
  | none =>
      have planned : nginx.plan start nginx.deploymentKey =
          some nginx.desiredDeployment.toJson.received := by
        rw [Nginx.plan_deploymentKey, Nginx.deploymentPlan, underway.progress.free_at_start found]
      obtain ⟨⟨kept, reading⟩, later⟩ := underway.stores_deployment keeps allowed
        nginx.sendable_desiredDeployment (Deployment.inLine_desiredDeployment nginx) planned
      refine ⟨_, _, rfl, ?_, ?_⟩
      · rw [reading]
        rfl
      · rw [reading]
        exact later

include readable keeps in
theorem moves_fetchDeployment
    (underway : Underway finished nginx start snapshot store .fetchDeployment) :
    Moves finished nginx start finish snapshot store .fetchDeployment := by
  obtain ⟨document, found⟩ := Option.isSome_iff_exists.mp underway.due
  obtain ⟨existing, reading, repair⟩ :=
    underway.progress.reads_deployment readable keeps found
  unfold Moves Call.effect
  simp only [found, readDocument, reading]
  refine ⟨_, _, rfl, rfl, ?_⟩
  simp only [Except.map, Call.followUp?, underway.fresh.renews.desiredDeployment_eq]
  cases wanted : existing.repair? nginx.desiredDeployment with
  | none =>
      rw [wanted] at repair
      exact ⟨underway.progress, underway.fresh, repair⟩
  | some repaired =>
      rw [wanted] at repair
      exact ⟨underway.progress, underway.fresh, by simp [found], repair⟩

include keeps allowed in
theorem moves_replaceDeployment {repaired : Deployment}
    (underway : Underway finished nginx start snapshot store (.replaceDeployment repaired)) :
    Moves finished nginx start finish snapshot store (.replaceDeployment repaired) := by
  obtain ⟨present, sendable, inLine, planned⟩ := underway.due
  obtain ⟨document, found⟩ := Option.isSome_iff_exists.mp present
  obtain ⟨⟨kept, reading⟩, later⟩ :=
    underway.stores_deployment keeps allowed sendable inLine planned
  unfold Moves Call.effect
  simp only [found, reading]
  exact ⟨_, _, rfl, rfl, later⟩

include keeps allowed in
theorem moves_createService
    (underway : Underway finished nginx start snapshot store .createService) :
    Moves finished nginx start finish snapshot store .createService := by
  have apart := nginx.serviceKey_ne_deploymentKey
  unfold Moves Call.effect
  cases found : store.get? nginx.serviceKey with
  | some document =>
      have done : Done finished nginx start store nginx.serviceKey := by
        rcases underway.progress.untouched_or_planned found with untouched | ⟨body, planned, made⟩
        · apply underway.progress.done_of_plan_none
          rw [Nginx.plan_serviceKey, Nginx.servicePlan, untouched]
        · exact (Done.of_plan_some planned).mpr ⟨document, found, made⟩
      refine ⟨_, _, rfl, rfl, ?_⟩
      exact ⟨underway.progress, underway.fresh, underway.due, done⟩
  | none =>
      have planned : nginx.plan start nginx.serviceKey =
          some nginx.desiredService.toJson.received := by
        rw [Nginx.plan_serviceKey, Nginx.servicePlan, underway.progress.free_at_start found]
      have stored := allowed nginx.serviceKey nginx.desiredService.toJson.received
      obtain ⟨kept, reading⟩ := Option.isSome_iff_exists.mp (keeps.service _ stored)
      simp only [readDocument, reading]
      refine ⟨_, _, rfl, rfl, ?_⟩
      have due : Done finished nginx start store nginx.deploymentKey := underway.due
      exact ⟨underway.progress.put planned stored,
        underway.fresh.put nginx.storeKey_ne_serviceKey, due.put_of_ne apart.symm,
        Done.put planned stored⟩

/-- A key that the walk does not reach is done at any time. -/
theorem Progress.done_elsewhere (progress : Progress finished nginx start store)
    (deployment : Done finished nginx start store nginx.deploymentKey)
    (service : Done finished nginx start store nginx.serviceKey)
    (stored : Done finished nginx start store nginx.storeKey) (key : ObjectKey) :
    Done finished nginx start store key := by
  by_cases isDeployment : key = nginx.deploymentKey
  · exact isDeployment ▸ deployment
  · by_cases isService : key = nginx.serviceKey
    · exact isService ▸ service
    · by_cases isStored : key = nginx.storeKey
      · exact isStored ▸ stored
      · exact progress.done_of_plan_none (nginx.plan_eq_none start isDeployment isService isStored)

include readable in
theorem moves_listPods (underway : Underway finished nginx start snapshot store .listPods) :
    Moves finished nginx start finish snapshot store .listPods := by
  obtain ⟨pods, reading⟩ := Option.isSome_iff_exists.mp readable.isSome_podList
  have seen : nginx.podsIn start = observedPods pods := by simp [Nginx.podsIn, reading]
  obtain ⟨deployment, service⟩ := underway.due
  unfold Moves Call.effect
  simp only [underway.progress.podList_eq, readDocument, reading]
  refine ⟨_, _, rfl, rfl, ?_⟩
  simp only [Except.map, Call.followUp?, ← seen]
  cases changed : podsChanged (nginx.podsIn start) snapshot.storedPods with
  | true => exact ⟨underway.progress, underway.fresh, deployment, service, rfl, changed⟩
  | false =>
      exact underway.progress.done_elsewhere deployment service (underway.fresh.current changed)

include readable keeps allowed in
theorem moves_recordPods {pods : List PodEntry}
    (underway : Underway finished nginx start snapshot store (.recordPods pods)) :
    Moves finished nginx start finish snapshot store (.recordPods pods) := by
  obtain ⟨deployment, service, rfl, changed⟩ := underway.due
  obtain ⟨same, untouched⟩ := underway.fresh.stale changed
  obtain ⟨members, stored, reading⟩ := readable.stored
  have planned : nginx.plan start nginx.storeKey =
      some (setMember "status" (NginxStatus.toJson { pods := nginx.podsIn start })
        (.obj members)) := by
    rw [same] at changed
    simp [Nginx.plan_storeKey, Nginx.statusPlan, changed, stored]
  have written := allowed nginx.storeKey
    (setMember "status" (NginxStatus.toJson { pods := nginx.podsIn start }) (.obj members))
  obtain ⟨fields, later, shape, read, -, -⟩ := keeps.recorded members _ _ reading written
  unfold Moves Call.effect
  rw [untouched, stored]
  simp only [readDocument, read]
  refine ⟨_, _, rfl, rfl, ?_⟩
  exact (underway.progress.put planned written).done_elsewhere
    (deployment.put_of_ne nginx.storeKey_ne_deploymentKey.symm)
    (service.put_of_ne nginx.storeKey_ne_serviceKey.symm) (Done.put planned written)

include readable keeps allowed in
/-- Whatever call comes next, it passes, and leaves the walk standing. -/
theorem Underway.step {call : Call}
    (underway : Underway finished nginx start snapshot store call) :
    Moves finished nginx start finish snapshot store call := by
  cases call with
  | createDeployment => exact moves_createDeployment keeps allowed underway
  | fetchDeployment => exact moves_fetchDeployment readable keeps underway
  | replaceDeployment repaired => exact moves_replaceDeployment keeps allowed underway
  | createService => exact moves_createService keeps allowed underway
  | listPods => exact moves_listPods readable underway
  | recordPods pods => exact moves_recordPods readable keeps allowed underway

/-!
### Whole walks

By induction on the walk, with the step above for each call.
-/

variable {call : Call} {records : List CallRecord} {result : Except OperatorError Unit}
  {final : ObjectStore}

include readable keeps in
/-- A walk without faults ends well, with the plan carried out. -/
theorem Underway.settles (admissible : nginx.Admissible)
    (underway : Underway finished nginx start snapshot store call)
    (walk : Handles (Serves finished) snapshot Call.any store call records result final) :
    result = .ok () ∧ ∀ key, Done finished nginx start final key := by
  have moves : ∀ {store next : ObjectStore} {record : CallRecord},
      Underway finished nginx start snapshot store record.call →
      Performs (Serves finished) snapshot store record next →
        record.failure? = none ∧
          Stands finished nginx start snapshot next (record.next? Call.any snapshot) := by
    intro store next record underway performed
    have renews := underway.fresh.renews
    obtain ⟨finish, allowed, effect⟩ := performed.effect (renews.admissible admissible)
    rw [renews.effect_eq] at effect
    obtain ⟨result, after, same, passed, stands⟩ := underway.step readable keeps allowed
    rw [effect] at same
    cases same
    rw [CallRecord.next?_any]
    exact ⟨passed, stands⟩
  induction walk with
  | failed performed failure =>
      rw [(moves underway performed).1] at failure
      cases failure
  | ended performed passed last =>
      obtain ⟨-, stands⟩ := moves underway performed
      rw [last] at stands
      exact ⟨rfl, stands⟩
  | continued performed passed more rest ih =>
      obtain ⟨-, stands⟩ := moves underway performed
      rw [more] at stands
      exact ih stands

theorem Stands.progress {next? : Option Call}
    (stands : Stands finished nginx start snapshot store next?) :
    Progress finished nginx start store := by
  cases next? with
  | none => exact fun key => .inr (stands key)
  | some call => exact Underway.progress stands

include readable keeps in
/-- A walk that may be hit by faults keeps the progress, wherever it ends. -/
theorem Underway.progresses (admissible : nginx.Admissible)
    (underway : Underway finished nginx start snapshot store call)
    (walk : Handles (ServesFaulty finished) snapshot Call.any store call records result final) :
    Progress finished nginx start final := by
  have moves : ∀ {store next : ObjectStore} {record : CallRecord},
      Underway finished nginx start snapshot store record.call →
      Performs (ServesFaulty finished) snapshot store record next →
        Progress finished nginx start next ∧ (record.failure? = none →
          Stands finished nginx start snapshot next (record.next? Call.any snapshot)) := by
    intro store next record underway performed
    have renews := underway.fresh.renews
    rcases performed.effect_or_fault (renews.admissible admissible) with
      ⟨finish, allowed, effect⟩ | ⟨failed, untouched | ⟨finish, allowed, effect⟩⟩
    · rw [renews.effect_eq] at effect
      obtain ⟨result, after, same, passed, stands⟩ := underway.step readable keeps allowed
      rw [effect] at same
      cases same
      rw [CallRecord.next?_any]
      exact ⟨stands.progress, fun _ => stands⟩
    · rw [untouched]
      refine ⟨underway.progress, fun passed => ?_⟩
      simp [passed] at failed
    · rw [renews.effect_eq] at effect
      obtain ⟨result, after, same, passed, stands⟩ := underway.step readable keeps allowed
      rw [same] at effect
      cases effect
      refine ⟨stands.progress, fun passed => ?_⟩
      simp [passed] at failed
  induction walk with
  | failed performed failure => exact (moves underway performed).1
  | ended performed passed last => exact (moves underway performed).1
  | continued performed passed more rest ih =>
      have stands := (moves underway performed).2 passed
      rw [more] at stands
      exact ih stands

end Steps

/-!
### Reading the instance again
-/

/-- The instance that is read under a key of a store. -/
def ObjectStore.instanceAt? (store : ObjectStore) (key : ObjectKey) : Option Nginx :=
  (store.get? key).bind fun document => Nginx.ofJson? document.received

section Resume

variable {finished : ObjectKey → Json → Json → Prop} {nginx : Nginx} {start store : ObjectStore}

theorem Nginx.StoredIn.instanceAt? (stored : nginx.StoredIn store) :
    store.instanceAt? nginx.storeKey = some nginx := by
  obtain ⟨members, found, reading⟩ := stored
  simp [ObjectStore.instanceAt?, found, reading]

/-- When the instance itself is done, it can be read again, with the pods that are seen. -/
theorem Done.resume (readable : nginx.ReadableIn start) (keeps : Keeps finished nginx)
    (done : Done finished nginx start store nginx.storeKey) :
    ∃ snapshot, store.instanceAt? nginx.storeKey = some snapshot ∧ snapshot.Renews nginx ∧
      podsChanged (nginx.podsIn start) snapshot.storedPods = false := by
  obtain ⟨members, stored, reading⟩ := readable.stored
  cases changed : podsChanged (nginx.podsIn start) nginx.storedPods with
  | false =>
      have planned : nginx.plan start nginx.storeKey = none := by
        simp [Nginx.plan_storeKey, Nginx.statusPlan, changed]
      have untouched := (Done.of_plan_none planned).mp done
      refine ⟨nginx, ?_, .refl nginx, changed⟩
      simp [ObjectStore.instanceAt?, untouched, stored, reading]
  | true =>
      have planned : nginx.plan start nginx.storeKey =
          some (setMember "status" (NginxStatus.toJson { pods := nginx.podsIn start })
            (.obj members)) := by
        simp [Nginx.plan_storeKey, Nginx.statusPlan, changed, stored]
      obtain ⟨document, found, allowed⟩ := (Done.of_plan_some planned).mp done
      obtain ⟨fields, snapshot, shape, read, renews, recorded⟩ :=
        keeps.recorded members _ document reading allowed
      refine ⟨snapshot, by simp [ObjectStore.instanceAt?, found, read], renews, ?_⟩
      rw [recorded]
      exact podsChanged_observedPods _

/-- A snapshot with the pods that are seen is fresh when the instance is done. -/
theorem Fresh.of_done {snapshot : Nginx} (renews : snapshot.Renews nginx)
    (unchanged : podsChanged (nginx.podsIn start) snapshot.storedPods = false)
    (done : Done finished nginx start store nginx.storeKey) :
    Fresh finished nginx start snapshot store where
  renews := renews
  stale := by
    intro changed
    rw [unchanged] at changed
    cases changed
  current := fun _ => done

/-- However far the plan is carried out, the instance can be read again, and what is read is as fresh
    as the store. -/
theorem Progress.resume (readable : nginx.ReadableIn start) (keeps : Keeps finished nginx)
    (progress : Progress finished nginx start store) :
    ∃ snapshot, store.instanceAt? nginx.storeKey = some snapshot ∧
      Fresh finished nginx start snapshot store := by
  rcases progress nginx.storeKey with untouched | done
  · refine ⟨nginx, ?_, .refl nginx, fun _ => ⟨rfl, untouched⟩, ?_⟩
    · rw [ObjectStore.instanceAt?, untouched]
      exact readable.stored.instanceAt?
    · intro unchanged
      apply progress.done_of_plan_none
      simp [Nginx.plan_storeKey, Nginx.statusPlan, unchanged]
  · obtain ⟨snapshot, read, renews, unchanged⟩ := done.resume readable keeps
    exact ⟨snapshot, read, .of_done renews unchanged done⟩

end Resume

/-!
### Dispatches

One attempt to handle the instance, from a store in which the plan may be half carried out.
-/

section Dispatch

variable {σ : Type} {answer : σ → Request → Outcome × σ} {store : σ → ObjectStore}
  {finished : ObjectKey → Json → Json → Prop} {nginx snapshot : Nginx} {start : ObjectStore}
  {state : σ}

theorem Notification.ofNginx_of_present {nginx : Nginx} (present : nginx.isDeleted = false) :
    ofNginx nginx = { object := .nginx nginx } := by
  rw [ofNginx, present]

/-- One attempt keeps the progress, whatever faults it meets. -/
theorem Progress.attempt
    (faulty : Through (ServesFaulty finished) store answer) (admissible : nginx.Admissible)
    (readable : nginx.ReadableIn start) (keeps : Keeps finished nginx)
    (present : snapshot.isDeleted = false)
    (progress : Progress finished nginx start (store state))
    (fresh : Fresh finished nginx start snapshot (store state)) :
    Progress finished nginx start
      (store ((dispatch (.ofNginx snapshot)).run answer state).state) := by
  rw [Notification.ofNginx_of_present present]
  obtain ⟨records, walk, -⟩ := dispatch_walks answer snapshot state
  have underway : Underway finished nginx start snapshot (store state) .createDeployment :=
    ⟨progress, fresh, trivial⟩
  exact underway.progresses readable keeps admissible (faulty.handles walk)

/-- An attempt without faults ends well and carries out the plan. -/
theorem Progress.settle
    (reliable : Through (Serves finished) store answer) (admissible : nginx.Admissible)
    (readable : nginx.ReadableIn start) (keeps : Keeps finished nginx)
    (present : snapshot.isDeleted = false)
    (progress : Progress finished nginx start (store state))
    (fresh : Fresh finished nginx start snapshot (store state)) :
    let transcript := (dispatch (.ofNginx snapshot)).run answer state
    transcript.result = .ok () ∧ ∀ key, Done finished nginx start (store transcript.state) key := by
  rw [Notification.ofNginx_of_present present]
  obtain ⟨records, walk, -⟩ := dispatch_walks answer snapshot state
  have underway : Underway finished nginx start snapshot (store state) .createDeployment :=
    ⟨progress, fresh, trivial⟩
  exact underway.settles readable keeps admissible (reliable.handles walk)

end Dispatch

end NginxFleet
