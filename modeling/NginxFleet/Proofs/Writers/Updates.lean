/-
Module: NginxFleet.Proofs.Writers.Updates
Layer: Proofs
Purpose: No update is lost. Handling an instance reads its objects by some requests and writes them by
  later ones, and others write between them. A write names the version of the object that was read, so
  a server that checks versions accepts it only if that very object is still stored. What is written
  is then that object with the number of pods and the template brought in line, or with the status
  recorded, and nothing else.
Main exports: Deployment.Corrected, CorrectsDeployment, RecordsPods, Harmless,
  Recalls, no_update_is_lost
-/
import NginxFleet.Proofs.Convergence.Retry
import NginxFleet.Proofs.Overlap.Dependents
import NginxFleet.Proofs.Writers.Accepted
import NginxFleet.Proofs.Writers.Amid

namespace NginxFleet

open Json

/-!
### What a request may change
-/

/-- A deployment that has drifted is brought in line: it has the number of pods and the template that
    the instance asks for, or the whole specification if it had none. All else is what it was, but
    for the version and what may change when numbers are read in their text. -/
structure Deployment.Corrected (nginx : Nginx) (existing kept : Deployment) : Prop where
  drifted : existing.ownedFields ≠ nginx.desiredDeployment.ownedFields
  metadata : ∃ version,
    kept.metadata = { existing.metadata.received.received with resourceVersion := version }
  status : kept.status = existing.status
  spec : kept.spec =
    match existing.spec with
    | some current =>
      some { current with replicas := some nginx.replicas, template := nginx.desiredTemplate }
    | none => some nginx.desiredDeploymentSpec

/-- The deployment that is stored is corrected, and no other object is changed. -/
def CorrectsDeployment (nginx : Nginx) (store next : ObjectStore) : Prop :=
  ∃ document existing stored kept,
    store.get? nginx.deploymentKey = some document ∧
    Deployment.ofJson? document.received = some existing ∧
    next.get? nginx.deploymentKey = some stored ∧
    Deployment.ofJson? stored.received = some kept ∧
    Deployment.Corrected nginx existing kept ∧
    ∀ key, key ≠ nginx.deploymentKey → next.get? key = store.get? key

/-- The instance that is stored, which is the one that is handled, is given a status and a version, and
    no other object is changed. The status has the pods that were listed, and these are not the pods
    that it had, in whatever order. -/
def RecordsPods (nginx : Nginx) (executed : List (Request × Outcome)) (store next : ObjectStore) :
    Prop :=
  ∃ members pods version outcome observed,
    store.get? nginx.storeKey = some (.obj members) ∧
    Nginx.ofJson? (Json.obj members).received = some nginx ∧
    next.get? nginx.storeKey =
      some ((setMember "status" (NginxStatus.toJson { pods }) (.obj members)).withVersion version) ∧
    (Call.listPods.sent nginx, outcome) ∈ executed ∧
    Call.listPods.read outcome = .ok (.pods observed) ∧
    pods.Perm (observed.map Pod.entry) ∧ ¬ (observed.map Pod.entry).Perm nginx.storedPods ∧
    ∀ key, key ≠ nginx.storeKey → next.get? key = store.get? key

/-- An accepted request that replaces an object corrects the deployment of the instance, one that
    replaces a status records the pods of the instance, and any other request, be it accepted or
    not, leaves every object as it is. -/
structure Harmless (nginx : Nginx) (executed : List (Request × Outcome)) (request : Request)
    (outcome : Outcome) (store next : ObjectStore) : Prop where
  corrects : ∀ key, acceptedPlace? request outcome = some (.one key) →
    key = nginx.deploymentKey ∧ CorrectsDeployment nginx store next
  records : ∀ key, acceptedPlace? request outcome = some (.status key) →
    key = nginx.storeKey ∧ RecordsPods nginx executed store next
  keeps : (∀ key, acceptedPlace? request outcome ≠ some (.one key) ∧
    acceptedPlace? request outcome ≠ some (.status key)) → KeepsObjects store next

/-!
### What is known on the way
-/

/-- What the call that comes next rests on. -/
def Grounded (nginx : Nginx) (executed : List (Request × Outcome)) (state : VersionedStore) :
    Point → Prop
  | .pending (.replaceDeployment repaired) =>
    ∃ document existing, state.Remembers nginx.deploymentKey document ∧
      Deployment.ofJson? document.received = some existing ∧
      existing.repair? nginx.desiredDeployment = some repaired
  | .pending (.recordPods pods) =>
    ∃ outcome observed, (Call.listPods.sent nginx, outcome) ∈ executed ∧
      Call.listPods.read outcome = .ok (.pods observed) ∧ pods = observedPods observed ∧
      podsChanged pods nginx.storedPods = true
  | _ => True

/-- The server numbers its objects, the instance that is handled was once stored, and what the next
    call rests on was read from the server. -/
structure Recalls (nginx : Nginx) (members : List (String × Json))
    (executed : List (Request × Outcome)) (state : VersionedStore) (point : Point) : Prop where
  numbered : state.Numbered
  snapshot : state.Remembers nginx.storeKey (.obj members)
  grounded : Grounded nginx executed state point

section Steps

variable {nginx : Nginx} {members : List (String × Json)} {executed : List (Request × Outcome)}
  {state next : VersionedStore} {point : Point} {call : Call} {outcome : Outcome}

theorem Grounded.written (grounded : Grounded nginx executed state point) (rewritten : state.Rewritten next) :
    Grounded nginx executed next point := by
  cases point with
  | ended result => trivial
  | pending call =>
      cases call with
      | replaceDeployment repaired =>
          obtain ⟨document, existing, remembers, reading, repair⟩ := grounded
          exact ⟨document, existing, remembers.rewritten rewritten, reading, repair⟩
      | recordPods pods => exact grounded
      | createDeployment | fetchDeployment | createService | listPods => trivial

/-- What is known stays known, whoever writes. -/
theorem Recalls.written (recalls : Recalls nginx members executed state point)
    (rewritten : state.Rewritten next) : Recalls nginx members executed next point where
  numbered := recalls.numbered.rewritten rewritten
  snapshot := recalls.snapshot.rewritten rewritten
  grounded := recalls.grounded.written rewritten

/-- A call that reads nothing is followed by none that rests on what was read. -/
theorem Grounded.after_other {result : Except ClientError Reply} (notFetch : call ≠ .fetchDeployment)
    (notList : call ≠ .listPods) :
    Grounded nginx executed state (call.after Call.any nginx result) := by
  unfold Call.after
  split
  · trivial
  · cases call with
    | fetchDeployment => exact absurd rfl notFetch
    | listPods => exact absurd rfl notList
    | createDeployment => cases result <;> trivial
    | replaceDeployment repaired | createService | recordPods pods => trivial

/-- A repair rests on a deployment that was read from the server. -/
theorem Grounded.after_fetch (numbered : state.Numbered) {finish : ObjectKey → Json → Json}
    {result : Except ClientError Reply} {store : ObjectStore}
    (effect : Call.fetchDeployment.effect finish nginx state.store = (result, store)) :
    Grounded nginx executed state (Call.fetchDeployment.after Call.any nginx result) := by
  obtain ⟨-, ⟨document, found, rfl⟩ | ⟨missing, rfl⟩⟩ := Call.fetchDeployment_cases effect
  · cases reading : Deployment.ofJson? document.received with
    | none =>
        simp only [readDocument, reading]
        trivial
    | some existing =>
        simp only [readDocument, reading, Call.after, Call.failure?, Except.map, Call.followUp?]
        cases repair : existing.repair? nginx.desiredDeployment with
        | none => trivial
        | some repaired =>
            exact ⟨document, existing, numbered.remembers found, reading, repair⟩
  · trivial

/-- A status rests on pods that were listed. -/
theorem Grounded.after_list (among : (Call.listPods.sent nginx, outcome) ∈ executed) :
    Grounded nginx executed state
      (Call.listPods.after Call.any nginx (Call.listPods.read outcome)) := by
  cases reading : readAnswer Pod.listOfJson? outcome with
  | error cause =>
      have read : Call.listPods.read outcome = .error cause := by
        simp [Call.read, reading, Except.map]
      rw [read]
      trivial
  | ok observed =>
      have read : Call.listPods.read outcome = .ok (.pods observed) := by
        simp [Call.read, reading, Except.map]
      rw [read]
      simp only [Call.after, Call.failure?, Call.followUp?]
      cases changed : podsChanged (observedPods observed) nginx.storedPods with
      | false => trivial
      | true => exact ⟨outcome, observed, among, read, rfl, changed⟩

/-- A call leaves known what the next one rests on. -/
theorem Recalls.called (admissible : nginx.Admissible)
    (recalls : Recalls nginx members executed state (.pending call))
    (executes : state.Executes (call.sent nginx) outcome next) :
    Recalls nginx members (executed ++ [(call.sent nginx, outcome)]) next
      (call.after Call.any nginx (call.read outcome)) := by
  have rewritten := executes.rewritten admissible recalls.numbered
  refine ⟨recalls.numbered.rewritten rewritten, recalls.snapshot.rewritten rewritten, ?_⟩
  by_cases lists : call = .listPods
  · subst lists
    exact .after_list (by simp)
  · by_cases fetches : call = .fetchDeployment
    · subst fetches
      refine Grounded.written ?_ rewritten
      rcases executes.effect admissible with ⟨key, rfl, -⟩ | ⟨-, version, -, -, effect⟩
      · trivial
      · exact .after_fetch recalls.numbered effect
    · exact .after_other fetches lists

/-!
### What an executed request changes
-/

theorem Call.read_ne_missing (accepted : outcome.succeeded) (key : ObjectKey) :
    call.read outcome ≠ .error (Call.missing key) :=
  call.read_ne_refused accepted _

/-- A replacement that the server accepts corrects the deployment that was read. -/
theorem Recalls.corrects (admissible : nginx.Admissible) {repaired : Deployment}
    (recalls : Recalls nginx members executed state (.pending (.replaceDeployment repaired)))
    (executes : state.Executes ((Call.replaceDeployment repaired).sent nginx) outcome next)
    (accepted : outcome.succeeded) : CorrectsDeployment nginx state.store next.store := by
  obtain ⟨document, existing, remembers, reading, repair⟩ := recalls.grounded
  rcases executes.effect admissible with ⟨key, rfl, -⟩ | ⟨current, version, -, -, effect⟩
  · cases accepted
  · rcases Call.change_cases rfl rfl effect with
      ⟨-, read, -⟩ | ⟨stored, found, written, rfl, -, write⟩
    · exact absurd read (Call.read_ne_missing accepted _)
    · obtain ⟨named, -, version_eq⟩ := remembers.named
      -- The replacement names the version of the deployment that was read, which no other has.
      have same : stored = document := by
        apply remembers.same stored found
        rw [version_eq]
        apply ObjectStore.version_of_not_outdated
          (Call.replacedKey?_replaceDeployment admissible repaired) current found
        show repaired.toJson.received.metadataText? "resourceVersion" = _
        rw [version_of_repair? reading repair, version_eq]
      subst same
      have sendable := Deployment.sendable_of_repair? reading repair
      have stamps : Stamps nginx.deploymentKey repaired.toJson.received
          (repaired.toJson.received.withVersion version) := .inr ⟨version, rfl⟩
      obtain ⟨kept, number, reads, metadata, spec, status⟩ :=
        Deployment.ofJson?_stamped sendable stamps
      obtain ⟨drifted, made⟩ := Deployment.repair?_eq_some_iff.mp repair
      subst made
      refine ⟨stored, existing, _, kept, found, reading, ?_, reads, ?_, ?_⟩
      · rw [write, ObjectStore.get?_put, if_pos rfl]
      · refine ⟨drifted, ⟨number, metadata⟩, status, ?_⟩
        rw [spec]
        cases existing.spec <;> rfl
      · intro key other
        rw [write, ObjectStore.get?_put, if_neg other]

/-- A status that is recorded names the version of the instance that was read. -/
theorem version_of_recording (stored : Nginx.ofJson? (Json.obj members).received = some nginx)
    (pods : List PodEntry) :
    (Json.received { nginx with status := some { pods } }.toJson).metadataText?
        "resourceVersion" =
      (Json.obj members).metadataText? "resourceVersion" := by
  rw [metadataText?_received, Nginx.metadataText?_toJson, ObjectMeta.resourceVersion_toJson,
    ← metadataText?_received _ (Json.obj members)]
  exact (Nginx.metadataText?_resourceVersion stored).symm

/-- A status that the server accepts is recorded in the instance that is handled. -/
theorem Recalls.records (admissible : nginx.Admissible) {pods : List PodEntry}
    (stored : Nginx.ofJson? (Json.obj members).received = some nginx)
    (recalls : Recalls nginx members executed state (.pending (.recordPods pods)))
    (executes : state.Executes ((Call.recordPods pods).sent nginx) outcome next)
    (accepted : outcome.succeeded) : RecordsPods nginx executed state.store next.store := by
  obtain ⟨listing, observed, among, listed, rfl, changed⟩ := recalls.grounded
  rcases executes.effect admissible with ⟨key, rfl, -⟩ | ⟨current, version, -, -, effect⟩
  · cases accepted
  · rcases Call.change_cases rfl rfl effect with
      ⟨-, read, -⟩ | ⟨document, found, written, rfl, -, write⟩
    · exact absurd read (Call.read_ne_missing accepted _)
    · obtain ⟨named, -, version_eq⟩ := recalls.snapshot.named
      -- The status is sent with the version of the snapshot, which no other instance has.
      have same : document = .obj members := by
        apply recalls.snapshot.same document found
        rw [version_eq]
        apply ObjectStore.version_of_not_outdated
          (Call.replacedKey?_recordPods admissible (observedPods observed)) current found
        show (Json.received { nginx with
          status := some { pods := observedPods observed } }.toJson).metadataText? _ = _
        rw [version_of_recording stored, version_eq]
      subst same
      refine ⟨members, observedPods observed, version, listing, observed, found, stored, ?_,
        among, listed, PodEntry.sorted_perm _, not_perm_of_podsChanged changed, ?_⟩
      · rw [write, ObjectStore.get?_put, if_pos rfl]
      · intro key other
        rw [write, ObjectStore.get?_put, if_neg other]

theorem acceptedPlace?_of_rejected {request : Request} (rejected : outcome.succeeded = false) :
    acceptedPlace? request outcome = none := by
  simp [acceptedPlace?, rejected]

theorem Call.acceptedPlace?_sent (admissible : nginx.Admissible) (succeeded : outcome.succeeded) :
    acceptedPlace? (call.sent nginx) outcome =
      if call.method = .put then some (call.place nginx) else none := by
  have sent : (call.sent nginx).method = call.method := rfl
  simp only [acceptedPlace?, sent, succeeded, and_true, ofPath?_sent admissible]

theorem Harmless.of_keeps {request : Request} (none : acceptedPlace? request outcome = none)
    (keeps : KeepsObjects state.store next.store) :
    Harmless nginx executed request outcome state.store next.store where
  corrects := by simp [none]
  records := by simp [none]
  keeps := fun _ => keeps

theorem Harmless.of_corrects {request : Request}
    (accepted : acceptedPlace? request outcome = some (.one nginx.deploymentKey))
    (corrects : CorrectsDeployment nginx state.store next.store) :
    Harmless nginx executed request outcome state.store next.store where
  corrects := by
    intro key place
    rw [accepted] at place
    cases place
    exact ⟨rfl, corrects⟩
  records := by simp [accepted]
  keeps := fun other => absurd accepted (other _).1

theorem Harmless.of_records {request : Request}
    (accepted : acceptedPlace? request outcome = some (.status nginx.storeKey))
    (records : RecordsPods nginx executed state.store next.store) :
    Harmless nginx executed request outcome state.store next.store where
  corrects := by simp [accepted]
  records := by
    intro key place
    rw [accepted] at place
    cases place
    exact ⟨rfl, records⟩
  keeps := fun other => absurd accepted (other _).2

/-- A call that is not a replacement is harmless: it leaves every object as it is. -/
theorem Call.harmless_of_not_put (admissible : nginx.Admissible) (other : call.method ≠ .put)
    (executes : state.Executes (call.sent nginx) outcome next) :
    Harmless nginx executed (call.sent nginx) outcome state.store next.store := by
  have place : acceptedPlace? (call.sent nginx) outcome = none := by
    cases accepted : outcome.succeeded with
    | false => exact acceptedPlace?_of_rejected accepted
    | true => rw [acceptedPlace?_sent admissible accepted, if_neg other]
  refine .of_keeps place ?_
  rcases executes.effect admissible with ⟨key, -, rfl⟩ | ⟨-, version, -, -, effect⟩
  · exact .refl _
  · exact keepsObjects_of_effect other effect

/-- Whatever call comes next, the server executes it without harm. -/
theorem Recalls.harmless (admissible : nginx.Admissible)
    (stored : Nginx.ofJson? (Json.obj members).received = some nginx)
    (recalls : Recalls nginx members executed state (.pending call))
    (executes : state.Executes (call.sent nginx) outcome next) :
    Harmless nginx executed (call.sent nginx) outcome state.store next.store := by
  cases accepted : outcome.succeeded with
  | false =>
      refine .of_keeps (acceptedPlace?_of_rejected accepted) ?_
      rw [executes.rejected accepted]
      exact .refl _
  | true =>
      have place : acceptedPlace? (call.sent nginx) outcome =
          if call.method = .put then some (call.place nginx) else none :=
        Call.acceptedPlace?_sent admissible accepted
      cases call with
      | replaceDeployment repaired =>
          exact .of_corrects place (recalls.corrects admissible executes accepted)
      | recordPods pods =>
          exact .of_records place (recalls.records admissible stored executes accepted)
      | createDeployment | fetchDeployment | createService | listPods =>
          exact Call.harmless_of_not_put admissible (by simp [Call.method]) executes

end Steps

/-!
### Any interleaving
-/

/-- An instance is handled as it was read from a server that numbers its objects, while others write
    whatever they like between its requests. Every request is harmless for the objects that are
    stored when it is executed. -/
theorem no_update_is_lost {nginx : Nginx} (admissible : nginx.Admissible) {start : VersionedStore}
    (numbered : start.Numbered) (stored : nginx.StoredIn start.store) {deleted : Bool}
    {executed : List (Request × Outcome)} {state next : VersionedStore} {request : Request}
    {resume : Outcome → Session (Except OperatorError Unit)} {outcome : Outcome}
    (reached : Amid start (dispatch { object := .nginx nginx, deleted }) executed state
      (.send request resume))
    (executes : state.Executes request outcome next) :
    Harmless nginx executed request outcome state.store next.store := by
  obtain ⟨members, found, reading⟩ := stored
  have snapshot := numbered.remembers found
  have begins : ∃ point,
      (dispatch { object := .nginx nginx, deleted }).At Call.any nginx point ∧
        Recalls nginx members [] start point := by
    cases deleted with
    | true => exact ⟨.ended (.ok ()), rfl, numbered, snapshot, trivial⟩
    | false =>
        exact ⟨.pending .createDeployment, @dispatch_at nginx, numbered, snapshot, trivial⟩
  obtain ⟨first, here, known⟩ := begins
  obtain ⟨point, stands, recalls⟩ : ∃ point,
      (Session.send request resume).At Call.any nginx point ∧
        Recalls nginx members executed state point :=
    reached.invariant admissible here known Recalls.written (Recalls.called admissible)
  cases point with
  | ended result => exact stands.elim
  | pending call =>
      obtain ⟨built, -⟩ := stands
      rw [Call.request_eq_sent admissible] at built
      cases built
      exact recalls.harmless admissible reading executes

/-- An instance, as it is read from a server that numbers its objects. -/
def numberedNginx : Nginx :=
  { declaredNginx with
    metadata := { declaredNginx.metadata with resourceVersion := some "3" } }

/-- A server that has numbered an instance and a deployment of its name that has drifted. -/
def numberedStore : VersionedStore where
  store :=
    (ObjectStore.put {} numberedNginx.storeKey (.obj [
      ("metadata", .obj [("name", .str "web"), ("namespace", .str "default"),
        ("uid", .str "u1"), ("resourceVersion", .str "3")]),
      ("spec", .obj [("replicas", .int 2)])])).put numberedNginx.deploymentKey (.obj [
        ("metadata", .obj [("resourceVersion", .str "7")]),
        ("spec", .obj [("replicas", .int 7)])])
  given := ["7", "3"]

theorem admissible_numberedNginx : numberedNginx.Admissible :=
  ⟨admissible_declaredNginx.name, admissible_declaredNginx.namespaceName⟩

theorem numbered_numberedStore : numberedStore.Numbered := by
  intro key document found
  simp only [numberedStore, ObjectStore.get?_put] at found
  split at found
  · cases found
    exact ⟨"7", List.mem_cons_self, by decide +kernel⟩
  · split at found
    · cases found
      exact ⟨"3", List.mem_cons_of_mem _ List.mem_cons_self, by decide +kernel⟩
    · cases found

theorem storedIn_numberedStore : numberedNginx.StoredIn numberedStore.store := by
  refine ⟨_, rfl, ?_⟩
  decide +kernel

/-- Before the deployment is read, another writer stores it with a name for its team, as made at half
    past a second and with a number in the fields that a manager set. -/
def teamEdit : List Edit := [none, some (numberedNginx.deploymentKey, [
  ("metadata", .obj [
    ("annotations", .obj [("team", .str "edge")]),
    ("creationTimestamp", .str "2024-05-01T10:00:00.5Z"),
    ("managedFields", .arr [.obj [("fieldsV1", .obj [
      ("f:weight", .float ⟨false, 8305581565106149, -371⟩)])]])]),
  ("spec", .obj [("replicas", .int 9), ("paused", .bool true)])])]

/-- The instance is handled up to the request that replaces the deployment. -/
@[irreducible]
def beforeReplacement :
    List (Request × Outcome) × VersionedStore × Session (Except OperatorError Unit) :=
  playAmid (dispatch { object := .nginx numberedNginx }) teamEdit numberedStore

/-- The number in the fields that the manager of a deployment set. -/
def managedWeight? (document : Json) : Option Json :=
  match (document.member? "metadata").bind (member? "managedFields") with
  | some (.arr [entry]) => (entry.member? "fieldsV1").bind (member? "f:weight")
  | _ => none

/-- A view of the server when a request replaces the deployment: the place that is replaced, the time
    at which the deployment was made and the number in the fields of its manager. -/
structure ReplacementView where
  place : Option Place
  times : Option String × Option String
  weights : Option Json × Option Json
deriving DecidableEq

/-- What can be seen when a request is executed next, before it and after it. -/
def viewReplacement (state : VersionedStore) (request : Request) : ReplacementView :=
  let before := state.store.get? numberedNginx.deploymentKey
  let after := (state.execute request).2.store.get? numberedNginx.deploymentKey
  { place := acceptedPlace? request (state.execute request).1
    times := (before.bind (metadataText? "creationTimestamp"),
      after.bind (metadataText? "creationTimestamp"))
    weights := (before.bind managedWeight?, after.bind managedWeight?) }

/-- The replacement is accepted, and cuts the fraction off the time and rounds the number. -/
theorem replacement_rounds :
    beforeReplacement.2.2.awaiting?.map
        (fun sent => viewReplacement beforeReplacement.2.1 sent.1) =
      some {
        place := some (.one numberedNginx.deploymentKey)
        times := (some "2024-05-01T10:00:00.5Z", some "2024-05-01T10:00:00Z")
        weights := (some (.float ⟨false, 8305581565106149, -371⟩),
          some (.float ⟨false, 8305581565106151, -371⟩)) } := by
  decide +kernel

/-- The request that replaces the deployment is sent and executed. -/
theorem executes_beforeReplacement :
    ∃ request resume,
      Amid numberedStore (dispatch { object := .nginx numberedNginx }) beforeReplacement.1
        beforeReplacement.2.1 (.send request resume) ∧
      beforeReplacement.2.1.Executes request (beforeReplacement.2.1.execute request).1
        (beforeReplacement.2.1.execute request).2 ∧
      viewReplacement beforeReplacement.2.1 request = {
        place := some (.one numberedNginx.deploymentKey)
        times := (some "2024-05-01T10:00:00.5Z", some "2024-05-01T10:00:00Z")
        weights := (some (.float ⟨false, 8305581565106149, -371⟩),
          some (.float ⟨false, 8305581565106151, -371⟩)) } := by
  obtain ⟨⟨request, resume⟩, awaits, view⟩ := Option.map_eq_some_iff.mp replacement_rounds
  have reached : Amid numberedStore (dispatch { object := .nginx numberedNginx })
      beforeReplacement.1 beforeReplacement.2.1 (.send request resume) := by
    unfold beforeReplacement at awaits ⊢
    exact Amid.sends awaits
  exact ⟨request, resume, reached, beforeReplacement.2.1.executes_execute request, view⟩

/-- The deployment that another writer scaled and annotated is read, and its replacement is accepted
    and harmless. -/
theorem no_update_is_lost_team :
    ∃ executed state request resume outcome next,
      Amid numberedStore (dispatch { object := .nginx numberedNginx }) executed state
        (.send request resume) ∧
      state.Executes request outcome next ∧
      acceptedPlace? request outcome = some (.one numberedNginx.deploymentKey) ∧
      Harmless numberedNginx executed request outcome state.store next.store := by
  obtain ⟨request, resume, reached, executes, view⟩ := executes_beforeReplacement
  have accepted := congrArg ReplacementView.place view
  have harmless := no_update_is_lost admissible_numberedNginx numbered_numberedStore
    storedIn_numberedStore reached executes
  exact ⟨_, _, request, resume, _, _, reached, executes, accepted, harmless⟩

/-- A replacement that is accepted may still change metadata that another writer stored: a time loses
    its fraction, and a number in the fields of a manager becomes a neighbour of itself. -/
theorem replacement_changes_metadata :
    numberedStore.Numbered ∧ numberedNginx.StoredIn numberedStore.store ∧
    ∃ executed state request resume outcome next,
      Amid numberedStore (dispatch { object := .nginx numberedNginx }) executed state
        (.send request resume) ∧
      state.Executes request outcome next ∧
      acceptedPlace? request outcome = some (.one numberedNginx.deploymentKey) ∧
      (state.store.get? numberedNginx.deploymentKey).bind (metadataText? "creationTimestamp") ≠
        (next.store.get? numberedNginx.deploymentKey).bind
          (metadataText? "creationTimestamp") ∧
      (state.store.get? numberedNginx.deploymentKey).bind managedWeight? ≠
        (next.store.get? numberedNginx.deploymentKey).bind managedWeight? := by
  obtain ⟨request, resume, reached, executes, view⟩ := executes_beforeReplacement
  have accepted := congrArg ReplacementView.place view
  have times := congrArg ReplacementView.times view
  have weights := congrArg ReplacementView.weights view
  obtain ⟨timeBefore, timeAfter⟩ := Prod.mk.inj times
  obtain ⟨weightBefore, weightAfter⟩ := Prod.mk.inj weights
  refine ⟨numbered_numberedStore, storedIn_numberedStore, _, _, request, resume, _, _, reached,
    executes, accepted, ?_, ?_⟩
  · rw [timeBefore, timeAfter]
    decide
  · rw [weightBefore, weightAfter]
    decide

end NginxFleet
