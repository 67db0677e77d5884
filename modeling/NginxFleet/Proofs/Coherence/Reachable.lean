/-
Module: NginxFleet.Proofs.Coherence.Reachable
Layer: Proofs
Purpose: The deployments and services of a server on which the operator alone writes them. Any number of
  notifications are handled, for whatever instances, and any request may fail, before it is executed
  or after. Each stored deployment is built for an instance that was handled, and each stored service
  has its deployment beside it; this is kept by every call, and what is built fits together.
Main exports: SameDependents, ServesDependents, Stems, Orderly.called, Handles.stems, dispatchEach,
  ObjectStore.Coherent, reachable_dependents_cohere
-/
import NginxFleet.Proofs.Coherence.Built
import NginxFleet.Proofs.Convergence.Retry

namespace NginxFleet

/-!
### A server on which the operator alone writes deployments and services
-/

/-- Two stores have the same deployments and the same services. -/
def SameDependents (store next : ObjectStore) : Prop :=
  ∀ key, key.collection = "deployments" ∨ key.collection = "services" →
    next.get? key = store.get? key

/-- No call finds in an outcome what it asked for. -/
def Outcome.Fails (outcome : Outcome) : Prop :=
  ∀ (call : Call) reply, call.read outcome ≠ .ok reply

/-- Others have written anything but deployments and services. Then a request is executed and
    answered, or it fails, be it before it is executed or after. -/
inductive ServesDependents (store : ObjectStore) (request : Request) :
    Outcome → ObjectStore → Prop where
  | answered {before next : ObjectStore} {outcome : Outcome} (others : SameDependents store before)
      (served : Serves Stamps before request outcome next) :
      ServesDependents store request outcome next
  | requestFailed {before : ObjectStore} {outcome : Outcome} (others : SameDependents store before)
      (fails : outcome.Fails) :
      ServesDependents store request outcome before
  | answerFailed {before next : ObjectStore} {lost outcome : Outcome}
      (others : SameDependents store before) (served : Serves Stamps before request lost next)
      (fails : outcome.Fails) :
      ServesDependents store request outcome next

theorem Outcome.fails_failure (reason : String) : (Outcome.failure reason).Fails := by
  intro call reply read
  cases call <;> cases read

/-!
### What is stored
-/

/-- The deployments and services of a store stem from instances: each deployment is built for one, and
    each service is that of one whose deployment is there. -/
structure Stems (dispatched : List Nginx) (store : ObjectStore) : Prop where
  deployments : ∀ key document, key.collection = "deployments" →
    store.get? key = some document →
    ∃ nginx ∈ dispatched, nginx.deploymentKey = key ∧
      ∃ deployment, Deployment.ofJson? document.received = some deployment ∧
        deployment.BuiltFor nginx
  services : ∀ key document, key.collection = "services" → store.get? key = some document →
    ∃ nginx ∈ dispatched, nginx.serviceKey = key ∧
      (∃ service, Service.ofJson? document.received = some service ∧ service.BuiltFor nginx) ∧
      (store.get? nginx.deploymentKey).isSome

section Stored

variable {dispatched : List Nginx} {nginx : Nginx} {store next : ObjectStore} {document : Json}

theorem Stems.of_empty (empty : ∀ key, key.collection = "deployments" ∨
    key.collection = "services" → store.get? key = none) : Stems dispatched store where
  deployments := by
    intro key document isDeployment found
    simp [empty key (.inl isDeployment)] at found
  services := by
    intro key document isService found
    simp [empty key (.inr isService)] at found

/-- Whoever writes other objects does not change what the deployments and services stem from. -/
theorem Stems.others (stems : Stems dispatched store) (same : SameDependents store next) :
    Stems dispatched next where
  deployments := by
    intro key document isDeployment found
    rw [same key (.inl isDeployment)] at found
    exact stems.deployments key document isDeployment found
  services := by
    intro key document isService found
    rw [same key (.inr isService)] at found
    obtain ⟨nginx, among, itsKey, built, present⟩ :=
      stems.services key document isService found
    refine ⟨nginx, among, itsKey, built, ?_⟩
    rw [same nginx.deploymentKey (.inl rfl)]
    exact present

theorem Stems.put_deployment (stems : Stems dispatched store) (among : nginx ∈ dispatched)
    {sent : Deployment} (sendable : sent.Sendable) (built : sent.BuiltFor nginx)
    (stamps : Stamps nginx.deploymentKey sent.toJson.received document) :
    Stems dispatched (store.put nginx.deploymentKey document) where
  deployments := by
    intro key stored isDeployment found
    rw [ObjectStore.get?_put] at found
    split at found
    · rename_i same
      cases found
      exact ⟨nginx, among, same.symm, built.stamped sendable stamps⟩
    · exact stems.deployments key stored isDeployment found
  services := by
    intro key stored isService found
    have apart : key ≠ nginx.deploymentKey := by
      rintro rfl
      simp [Nginx.deploymentKey] at isService
    rw [ObjectStore.get?_put, if_neg apart] at found
    obtain ⟨owner, amongOwner, itsKey, service, present⟩ :=
      stems.services key stored isService found
    refine ⟨owner, amongOwner, itsKey, service, ?_⟩
    rw [ObjectStore.get?_put]
    split
    · rfl
    · exact present

theorem Stems.put_service (stems : Stems dispatched store) (among : nginx ∈ dispatched)
    (present : (store.get? nginx.deploymentKey).isSome)
    (stamps : Stamps nginx.serviceKey nginx.desiredService.toJson.received document) :
    Stems dispatched (store.put nginx.serviceKey document) where
  deployments := by
    intro key stored isDeployment found
    have apart : key ≠ nginx.serviceKey := by
      rintro rfl
      simp [Nginx.serviceKey] at isDeployment
    rw [ObjectStore.get?_put, if_neg apart] at found
    exact stems.deployments key stored isDeployment found
  services := by
    intro key stored isService found
    have kept : ∀ owner : Nginx, (store.get? owner.deploymentKey).isSome →
        ((store.put nginx.serviceKey document).get? owner.deploymentKey).isSome := by
      intro owner there
      have apart : owner.deploymentKey ≠ nginx.serviceKey := by
        simp [Nginx.deploymentKey, Nginx.serviceKey]
      rw [ObjectStore.get?_put, if_neg apart]
      exact there
    rw [ObjectStore.get?_put] at found
    split at found
    · rename_i same
      cases found
      exact ⟨nginx, among, same.symm, Service.BuiltFor.of_stamps stamps, kept nginx present⟩
    · obtain ⟨owner, amongOwner, itsKey, service, there⟩ :=
        stems.services key stored isService found
      exact ⟨owner, amongOwner, itsKey, service, kept owner there⟩

end Stored

/-!
### One call
-/

/-- What the call that comes next rests on: a replacement is built for the instance, and a service is
    created only where the deployment is. -/
def Rests (nginx : Nginx) (store : ObjectStore) : Point → Prop
  | .pending (.replaceDeployment repaired) => repaired.Sendable ∧ repaired.BuiltFor nginx
  | .pending .createService => (store.get? nginx.deploymentKey).isSome
  | _ => True

/-- Where handling an instance stands: what is stored stems from instances, and what the next call
    rests on is there. -/
structure Orderly (dispatched : List Nginx) (nginx : Nginx) (store : ObjectStore) (point : Point) :
    Prop where
  stems : Stems dispatched store
  rests : Rests nginx store point

section Calls

variable {dispatched : List Nginx} {nginx : Nginx} {store next : ObjectStore} {call : Call}
  {point : Point} {finish : ObjectKey → Json → Json} {result : Except ClientError Reply}

/-- A call that fails is followed by none that rests on something. -/
theorem Rests.after_error (cause : ClientError) :
    Rests nginx store (call.after Call.any nginx (.error cause)) := by
  unfold Call.after
  split
  · trivial
  · cases call <;> trivial

theorem Orderly.others (orderly : Orderly dispatched nginx store point)
    (same : SameDependents store next) : Orderly dispatched nginx next point := by
  refine ⟨orderly.stems.others same, ?_⟩
  cases point with
  | ended result => trivial
  | pending call =>
      cases call with
      | createService =>
          show (next.get? nginx.deploymentKey).isSome
          rw [same nginx.deploymentKey (.inl rfl)]
          exact orderly.rests
      | replaceDeployment repaired => exact orderly.rests
      | createDeployment | fetchDeployment | listPods | recordPods pods => trivial

/-- A deployment that is stored is there for the service. -/
theorem Orderly.put_deployment (stems : Stems dispatched store) (among : nginx ∈ dispatched)
    {sent : Deployment} (sendable : sent.Sendable) (built : sent.BuiltFor nginx)
    (allowed : ∀ key body, Stamps key body (finish key body)) :
    Orderly dispatched nginx
      (store.put nginx.deploymentKey (finish nginx.deploymentKey sent.toJson.received))
      (.pending .createService) := by
  refine ⟨stems.put_deployment among sendable built (allowed _ _), ?_⟩
  show ((store.put nginx.deploymentKey _).get? nginx.deploymentKey).isSome
  simp [ObjectStore.get?_put]

theorem Orderly.createDeployment (stems : Stems dispatched store) (among : nginx ∈ dispatched)
    (allowed : ∀ key body, Stamps key body (finish key body))
    (effect : Call.createDeployment.effect finish nginx store = (result, next)) :
    Orderly dispatched nginx next (Call.createDeployment.after Call.any nginx result) := by
  rcases Call.create_cases rfl rfl effect with
    ⟨document, found, rfl, rfl⟩ | ⟨free, document, rfl, rfl, rfl⟩
  · exact ⟨stems, .after_error _⟩
  · have built := Deployment.builtFor_desiredDeployment nginx
    obtain ⟨kept, reading, -⟩ := built.stamped nginx.sendable_desiredDeployment
      (allowed nginx.deploymentKey _)
    simp only [Call.readReply, readDocument, reading]
    exact .put_deployment stems among nginx.sendable_desiredDeployment built allowed

theorem Orderly.fetchDeployment (stems : Stems dispatched store)
    (effect : Call.fetchDeployment.effect finish nginx store = (result, next)) :
    Orderly dispatched nginx next (Call.fetchDeployment.after Call.any nginx result) := by
  obtain ⟨rfl, ⟨document, found, rfl⟩ | ⟨missing, rfl⟩⟩ := Call.fetchDeployment_cases effect
  · obtain ⟨other, -, sameKey, existing, reading, built⟩ :=
      stems.deployments nginx.deploymentKey document rfl found
    -- It may stem from another snapshot, with another template, but its key tells its name.
    have name := (Nginx.deploymentKey_inj.mp sameKey).2
    simp only [readDocument, reading, Call.after, Call.failure?, Except.map, Call.followUp?]
    refine ⟨stems, ?_⟩
    cases repair : existing.repair? nginx.desiredDeployment with
    | none => exact Option.isSome_of_eq_some found
    | some repaired =>
        exact ⟨Deployment.sendable_of_repair? reading repair,
          built.of_repair? name.symm repair⟩
  · exact ⟨stems, .after_error _⟩

theorem Orderly.replaceDeployment (stems : Stems dispatched store) (among : nginx ∈ dispatched)
    {repaired : Deployment} (sendable : repaired.Sendable) (built : repaired.BuiltFor nginx)
    (allowed : ∀ key body, Stamps key body (finish key body))
    (effect : (Call.replaceDeployment repaired).effect finish nginx store = (result, next)) :
    Orderly dispatched nginx next
      ((Call.replaceDeployment repaired).after Call.any nginx result) := by
  rcases Call.change_cases rfl rfl effect with
    ⟨missing, rfl, rfl⟩ | ⟨existing, found, document, rfl, rfl, rfl⟩
  · exact ⟨stems, .after_error _⟩
  · obtain ⟨kept, reading, -⟩ := built.stamped sendable (allowed nginx.deploymentKey _)
    simp only [Call.readReply, readDocument, reading]
    exact .put_deployment stems among sendable built allowed

theorem Orderly.createService (stems : Stems dispatched store) (among : nginx ∈ dispatched)
    (present : (store.get? nginx.deploymentKey).isSome)
    (allowed : ∀ key body, Stamps key body (finish key body))
    (effect : Call.createService.effect finish nginx store = (result, next)) :
    Orderly dispatched nginx next (Call.createService.after Call.any nginx result) := by
  rcases Call.create_cases rfl rfl effect with
    ⟨document, found, rfl, rfl⟩ | ⟨free, document, rfl, rfl, rfl⟩
  · exact ⟨stems, .after_error _⟩
  · have stamps := allowed nginx.serviceKey nginx.desiredService.toJson.received
    obtain ⟨kept, reading, -⟩ := Service.BuiltFor.of_stamps stamps
    simp only [Call.readReply, readDocument, reading]
    exact ⟨stems.put_service among present stamps, trivial⟩

/-- A call that writes at most the instance leaves deployments and services as they are. -/
theorem Call.sameDependents
    (apart : ∀ key, call.written? nginx = some key → key = nginx.storeKey)
    (effect : call.effect finish nginx store = (result, next)) : SameDependents store next := by
  intro key isDependent
  have other : call.written? nginx ≠ some key := by
    intro written
    rw [apart key written] at isDependent
    simp [Nginx.storeKey, Cluster.nginxKey, Nginx.plural] at isDependent
  have frame : (call.effect finish nginx store).2.get? key = store.get? key :=
    Call.effect_frame other
  rw [effect] at frame
  exact frame

theorem Orderly.listPods (stems : Stems dispatched store)
    (effect : Call.listPods.effect finish nginx store = (result, next)) :
    Orderly dispatched nginx next (Call.listPods.after Call.any nginx result) := by
  refine ⟨stems.others (Call.sameDependents (by simp [Call.written?]) effect), ?_⟩
  cases result with
  | error cause => exact .after_error cause
  | ok reply =>
      cases reply with
      | pods observed =>
          simp only [Call.after, Call.failure?, Call.followUp?]
          cases podsChanged (observedPods observed) nginx.storedPods <;> trivial
      | deployment | service | nginx => trivial

theorem Orderly.recordPods (stems : Stems dispatched store) {pods : List PodEntry}
    (effect : (Call.recordPods pods).effect finish nginx store = (result, next)) :
    Orderly dispatched nginx next ((Call.recordPods pods).after Call.any nginx result) := by
  have apart : ∀ key, (Call.recordPods pods).written? nginx = some key → key = nginx.storeKey := by
    intro key written
    cases written
    rfl
  refine ⟨stems.others (Call.sameDependents apart effect), ?_⟩
  cases result with
  | error cause => exact .after_error cause
  | ok reply => trivial

/-- Any call that has its effect keeps what is stored in order, and leaves what the next one rests on. -/
theorem Orderly.effect (orderly : Orderly dispatched nginx store (.pending call))
    (among : nginx ∈ dispatched) (allowed : ∀ key body, Stamps key body (finish key body))
    (effect : call.effect finish nginx store = (result, next)) :
    Orderly dispatched nginx next (call.after Call.any nginx result) := by
  obtain ⟨stems, rests⟩ := orderly
  -- Only the service and the replacement need what the call before them has left.
  cases call with
  | createDeployment => exact .createDeployment stems among allowed effect
  | fetchDeployment => exact .fetchDeployment stems effect
  | replaceDeployment repaired =>
      exact .replaceDeployment stems among rests.1 rests.2 allowed effect
  | createService => exact .createService stems among rests allowed effect
  | listPods => exact .listPods stems effect
  | recordPods pods => exact .recordPods stems effect

/-- So does a call on a server that may fail it. -/
theorem Orderly.called (admissible : nginx.Admissible) (among : nginx ∈ dispatched)
    (orderly : Orderly dispatched nginx store (.pending call)) {outcome : Outcome}
    (serves : ServesDependents store (call.sent nginx) outcome next) :
    Orderly dispatched nginx next (call.after Call.any nginx (call.read outcome)) := by
  have failed : outcome.Fails →
      Rests nginx next (call.after Call.any nginx (call.read outcome)) := by
    intro fails
    cases read : call.read outcome with
    | ok reply => exact absurd read (fails call reply)
    | error cause => exact .after_error cause
  have executed : ∀ {before : ObjectStore} {given : Outcome}, SameDependents store before →
      Serves Stamps before (call.sent nginx) given next →
        Orderly dispatched nginx next (call.after Call.any nginx (call.read given)) := by
    rintro before given others ⟨finish, allowed, served⟩
    apply (orderly.others others).effect among allowed
    rw [← Call.read_serveWith admissible, served]
  cases serves with
  | answered others served => exact executed others served
  | requestFailed others fails => exact ⟨orderly.stems.others others, failed fails⟩
  | answerFailed others served fails => exact ⟨(executed others served).stems, failed fails⟩

theorem Orderly.performed (admissible : nginx.Admissible) (among : nginx ∈ dispatched)
    {record : CallRecord} (orderly : Orderly dispatched nginx store (.pending record.call))
    (performed : Performs ServesDependents nginx store record next) :
    Orderly dispatched nginx next (record.call.after Call.any nginx record.result) := by
  cases performed with
  | unbuilt unbuilt =>
      rw [Call.request_eq_sent admissible] at unbuilt
      cases unbuilt
  | sent built served =>
      rw [Call.request_eq_sent admissible] at built
      cases built
      exact orderly.called admissible among served

/-- Handling an instance, by induction on its calls, keeps what is stored in order. -/
theorem Handles.stems (admissible : nginx.Admissible) (among : nginx ∈ dispatched)
    {records : List CallRecord} {ended : Except OperatorError Unit} {final : ObjectStore}
    (walk : Handles ServesDependents nginx Call.any store call records ended final)
    (orderly : Orderly dispatched nginx store (.pending call)) : Stems dispatched final := by
  induction walk with
  | failed performed failure => exact (orderly.performed admissible among performed).stems
  | ended performed passed last => exact (orderly.performed admissible among performed).stems
  | @continued _ next _ record following _ _ performed passed more rest ih =>
      apply ih
      have later := orderly.performed admissible among performed
      unfold CallRecord.failure? at passed
      unfold CallRecord.next? at more
      simpa only [Call.after, passed, Point.before, more] using later

end Calls

/-!
### Any number of notifications
-/

/-- Notifications are handled one after another, however each of them ends. -/
def dispatchEach {σ : Type} (answer : σ → Request → Outcome × σ) : List Notification → σ → σ
  | [], state => state
  | notification :: later, state =>
    dispatchEach answer later ((dispatch notification).run answer state).state

section Runs

variable {σ : Type} {answer : σ → Request → Outcome × σ} {view : σ → ObjectStore}
  {dispatched : List Nginx} {notification : Notification} {state : σ}

/-- A notification that asks for nothing leaves the server as it is. -/
theorem dispatch_idle (idle : notification.instance? = none) :
    ((dispatch notification).run answer state).state = state := by
  obtain ⟨object, deleted⟩ := notification
  cases object with
  | nginx nginx =>
      cases deleted with
      | true => rfl
      | false => cases idle
  | deployment value | service value | pod value => rfl

theorem dispatch_stems (serves : Through ServesDependents view answer)
    (stems : Stems dispatched (view state))
    (known : ∀ nginx, notification.instance? = some nginx →
      nginx ∈ dispatched ∧ nginx.Admissible) :
    Stems dispatched (view ((dispatch notification).run answer state).state) := by
  obtain ⟨object, deleted⟩ := notification
  cases asked : Notification.instance? { object, deleted } with
  | none =>
      rw [dispatch_idle asked]
      exact stems
  | some nginx =>
      obtain ⟨among, admissible⟩ := known nginx asked
      have same : object = .nginx nginx ∧ deleted = false := by
        cases object <;> cases deleted <;> simp_all [Notification.instance?]
      obtain ⟨rfl, rfl⟩ := same
      obtain ⟨records, walk, -⟩ := dispatch_walks answer nginx state
      exact (serves.handles walk).stems admissible among ⟨stems, trivial⟩

theorem dispatchEach_stems (serves : Through ServesDependents view answer)
    {notifications : List Notification} (stems : Stems dispatched (view state))
    (known : ∀ notification ∈ notifications, ∀ nginx, notification.instance? = some nginx →
      nginx ∈ dispatched ∧ nginx.Admissible) :
    Stems dispatched (view (dispatchEach answer notifications state)) := by
  induction notifications generalizing state with
  | nil => exact stems
  | cons notification later ih =>
      have first := dispatch_stems serves stems (known notification List.mem_cons_self)
      exact ih first fun later among => known later (List.mem_cons_of_mem _ among)

end Runs

/-!
### What is stored fits together
-/

/-- Each deployment of a store is that of an instance that was handled and is coherent, and each service
    is that of an instance that was handled: it selects the pods of the deployment of this instance
    and of no other one in its namespace, and leads to one port of them. -/
structure ObjectStore.Coherent (dispatched : List Nginx) (store : ObjectStore) : Prop where
  deployments : ∀ namespaceName name document,
    store.get? ⟨"deployments", namespaceName, name⟩ = some document →
    ∃ nginx ∈ dispatched, nginx.namespaceName = namespaceName ∧ nginx.deploymentName = name ∧
      ∃ deployment, Deployment.ofJson? document.received = some deployment ∧
        deployment.Coherent nginx.name
  services : ∀ namespaceName name document,
    store.get? ⟨"services", namespaceName, name⟩ = some document →
    ∃ nginx ∈ dispatched, nginx.namespaceName = namespaceName ∧ nginx.serviceName = name ∧
      ∃ service, Service.ofJson? document.received = some service ∧
        service.metadata.name = some name ∧
        (∀ deploymentName found deployment,
          store.get? ⟨"deployments", namespaceName, deploymentName⟩ = some found →
          Deployment.ofJson? found.received = some deployment →
          (service.Selects deployment ↔ deploymentName = nginx.deploymentName)) ∧
        ∃ found deployment, store.get? nginx.deploymentKey = some found ∧
          Deployment.ofJson? found.received = some deployment ∧ service.TargetsOnePort deployment

/-- What stems from instances fits together. -/
theorem Stems.coherent {dispatched : List Nginx} {store : ObjectStore}
    (stems : Stems dispatched store) : store.Coherent dispatched where
  deployments := by
    intro namespaceName name document found
    obtain ⟨nginx, among, itsKey, deployment, reading, built⟩ :=
      stems.deployments _ document rfl found
    cases itsKey
    exact ⟨nginx, among, rfl, rfl, deployment, reading, built.coherent⟩
  services := by
    intro namespaceName name document found
    obtain ⟨nginx, among, itsKey, ⟨service, reading, built⟩, present⟩ :=
      stems.services _ document rfl found
    cases itsKey
    refine ⟨nginx, among, rfl, rfl, service, reading, built.named, ?_, ?_⟩
    · intro deploymentName stored deployment isStored reads
      obtain ⟨other, -, otherKey, same, again, runs⟩ :=
        stems.deployments _ stored rfl isStored
      rw [reads] at again
      cases again
      have itsName : other.deploymentName = deploymentName := congrArg ObjectKey.name otherKey
      rw [built.selects_iff runs, ← itsName, Nginx.deploymentName, Nginx.deploymentName,
        String.append_left_inj]
    · obtain ⟨stored, isStored⟩ := Option.isSome_iff_exists.mp present
      obtain ⟨other, -, -, deployment, reads, runs⟩ := stems.deployments _ stored rfl isStored
      exact ⟨stored, deployment, isStored, reads, built.targetsOnePort runs⟩

/-- A server without deployments and services handles any notifications, and any request may fail. As
    long as nobody else writes deployments and services, those that are stored fit together. -/
theorem reachable_dependents_cohere {σ : Type} {answer : σ → Request → Outcome × σ}
    {view : σ → ObjectStore} (serves : Through ServesDependents view answer)
    {notifications : List Notification}
    (admissible : ∀ notification ∈ notifications, ∀ nginx,
      notification.instance? = some nginx → nginx.Admissible)
    {state : σ} (empty : ∀ key, key.collection = "deployments" ∨ key.collection = "services" →
      (view state).get? key = none) :
    (view (dispatchEach answer notifications state)).Coherent
      (notifications.filterMap Notification.instance?) := by
  apply Stems.coherent
  apply dispatchEach_stems serves (.of_empty empty)
  intro notification among nginx asked
  exact ⟨List.mem_filterMap.mpr ⟨notification, among, asked⟩,
    admissible notification among nginx asked⟩

theorem through_answerLosing_dependents : Through ServesDependents Prod.fst answerLosing := by
  rintro ⟨store, schedule⟩ request
  have served : Serves Stamps store request (store.serve request).1 (store.serve request).2 :=
    through_serve_stamps store request
  have others : SameDependents store store := fun _ _ => rfl
  match schedule with
  | [] => exact .answered others served
  | false :: later => exact .answered others served
  | true :: later => exact .answerFailed others served (Outcome.fails_failure _)

/-- An instance that has a configuration and then loses it. -/
def configuredThenPlain : List Notification :=
  [.ofNginx { declaredNginx with spec := { config := some ⟨"web-config"⟩ } },
    .ofNginx declaredNginx]

theorem admissible_configuredThenPlain :
    ∀ notification ∈ configuredThenPlain, ∀ nginx, notification.instance? = some nginx →
      nginx.Admissible := by
  intro notification among nginx asked
  simp only [configuredThenPlain, List.mem_cons, List.not_mem_nil, or_false] at among
  rcases among with rfl | rfl <;>
    · cases asked
      exact ⟨admissible_declaredNginx.name, admissible_declaredNginx.namespaceName⟩

/-- The server afterwards, if the answer about the service is lost, which ends the first run, and then
    the first answer of the second run. -/
@[irreducible]
def afterLostAnswers : ObjectStore × List Bool :=
  dispatchEach answerLosing configuredThenPlain ({}, [false, true, true])

theorem keys_afterLostAnswers :
    afterLostAnswers.1.toList.map Prod.fst =
      [⟨"deployments", "default", "web-deployment"⟩, ⟨"services", "default", "web-service"⟩] := by
  decide +kernel

/-- Though both runs were cut short, the deployment and the service are stored, and fit together. -/
theorem reachable_dependents_cohere_after_lost_answers :
    afterLostAnswers.1.toList.map Prod.fst =
        [⟨"deployments", "default", "web-deployment"⟩,
          ⟨"services", "default", "web-service"⟩] ∧
      afterLostAnswers.1.Coherent (configuredThenPlain.filterMap Notification.instance?) := by
  have empty : ∀ key : ObjectKey, key.collection = "deployments" ∨ key.collection = "services" →
      (Prod.fst (({}, [false, true, true]) : ObjectStore × List Bool)).get? key = none :=
    fun _ _ => rfl
  have coherent := reachable_dependents_cohere through_answerLosing_dependents
    admissible_configuredThenPlain empty
  refine ⟨keys_afterLostAnswers, ?_⟩
  unfold afterLostAnswers
  exact coherent

end NginxFleet
