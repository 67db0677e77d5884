/-
Module: NginxFleet.Proofs.Server.Versioned
Layer: Proofs
Purpose: A server that detects conflicts. Every write gives the stored object a new version, and an object
  is not replaced by one that names another version than the stored one. A call then has the effect
  that it has on any store, unless it replaces a deployment of which it read an older version.
Main exports: VersionedStore, VersionedStore.IsNew, VersionedStore.Serves, VersionedStore.answer,
  VersionedStore.serves_answer, Call.outdated, VersionedStore.Serves.effect
-/
import NginxFleet.Proofs.Server.Effect

namespace NginxFleet

/-- A store, and the versions that were given to its objects so far. -/
structure VersionedStore where
  store : ObjectStore
  given : List String := []

namespace ObjectStore

/-- The key of the object that a request would replace without knowing its version: the request names
    one that is not the stored one. A request that names none replaces whatever is there. -/
def conflict? (store : ObjectStore) (request : Request) : Option ObjectKey :=
  match Place.ofPath? request.target.path, request.method with
  | some (.one key), .put =>
    match store.get? key, (request.body.getD .null).metadataText? "resourceVersion" with
    | some document, some version =>
      if document.metadataText? "resourceVersion" = some version then none else some key
    | _, _ => none
  | _, _ => none

/-- The refusal to replace an object of which the request names another version. -/
def conflict (key : ObjectKey) : Outcome :=
  refusal 409 "Conflict" (key.collection ++ " \"" ++ key.name ++ "\" has been modified")

end ObjectStore

namespace VersionedStore

/-- A version that no object has or ever had. -/
def IsNew (state : VersionedStore) (version : String) : Prop :=
  version ∉ state.given ∧ ∀ key document, state.store.get? key = some document →
    document.metadataText? "resourceVersion" ≠ some version

/-- A request is executed, at once and as a whole. -/
def Serves (state : VersionedStore) (request : Request) (outcome : Outcome)
    (next : VersionedStore) : Prop :=
  match state.store.conflict? request with
  | some key => outcome = ObjectStore.conflict key ∧ next = state
  | none =>
    ∃ version, state.IsNew version ∧ next.given = version :: state.given ∧
      state.store.serveWith (fun _ body => body.withVersion version) request =
        (outcome, next.store)

/-!
### A server that does so

It is always possible to find a new version, so every request can be served.
-/

/-- The versions that objects have or had. -/
def versions (state : VersionedStore) : List String :=
  state.given ++ state.store.toList.filterMap fun entry => entry.2.metadataText? "resourceVersion"

/-- A version that is longer than all others. -/
def newVersion (state : VersionedStore) : String :=
  state.versions.foldr (fun version longer => version ++ longer) "1"

theorem length_lt_foldr {versions : List String} {version : String} (used : version ∈ versions) :
    version.length < (versions.foldr (fun version longer => version ++ longer) "1").length := by
  have positive : ∀ versions : List String,
      0 < (versions.foldr (fun version longer => version ++ longer) "1").length := by
    intro versions
    induction versions with
    | nil => decide
    | cons first others ih =>
        rw [List.foldr_cons, String.length_append]
        omega
  induction versions with
  | nil => cases used
  | cons first others ih =>
      rw [List.foldr_cons, String.length_append]
      rcases List.mem_cons.mp used with rfl | later
      · have := positive others
        omega
      · have := ih later
        omega

theorem newVersion_notMem (state : VersionedStore) : state.newVersion ∉ state.versions := by
  intro used
  exact Nat.lt_irrefl _ (length_lt_foldr used)

theorem isNew_newVersion (state : VersionedStore) : state.IsNew state.newVersion := by
  constructor
  · intro given
    exact state.newVersion_notMem (List.mem_append_left _ given)
  · intro key document found named
    refine state.newVersion_notMem (List.mem_append_right _ ?_)
    exact List.mem_filterMap.mpr ⟨(key, document), ObjectStore.mem_toList_of_get? found, named⟩

/-- The outcome of a request, and the store afterwards, on a server that detects conflicts. -/
def answer (state : VersionedStore) (request : Request) : Outcome × VersionedStore :=
  match state.store.conflict? request with
  | some key => (ObjectStore.conflict key, state)
  | none =>
    let version := state.newVersion
    let (outcome, store) := state.store.serveWith (fun _ body => body.withVersion version) request
    (outcome, { store, given := version :: state.given })

theorem serves_answer (state : VersionedStore) (request : Request) :
    state.Serves request (state.answer request).1 (state.answer request).2 := by
  unfold Serves answer
  cases state.store.conflict? request with
  | some key => exact ⟨rfl, rfl⟩
  | none => exact ⟨state.newVersion, state.isNew_newVersion, rfl, rfl⟩

end VersionedStore

/-- The error for a key whose object has another version than the one that was read. -/
def Call.outdated (key : ObjectKey) : ClientError :=
  .refused {
    status := "Failure"
    message := key.collection ++ " \"" ++ key.name ++ "\" has been modified"
    reason := "Conflict"
    code := 409 }

namespace Call

variable {nginx : Nginx} {store : ObjectStore}

/-- Only a call that replaces a deployment can meet a conflict, at the deployment. -/
theorem conflict?_sent (admissible : nginx.Admissible) {call : Call} {key : ObjectKey}
    (conflict : store.conflict? (call.sent nginx) = some key) :
    ∃ repaired document version, call = .replaceDeployment repaired ∧ key = nginx.deploymentKey ∧
      store.get? nginx.deploymentKey = some document ∧
      repaired.toJson.received.metadataText? "resourceVersion" = some version ∧
      document.metadataText? "resourceVersion" ≠ some version := by
  unfold ObjectStore.conflict? at conflict
  rw [ofPath?_sent admissible] at conflict
  cases call with
  | replaceDeployment repaired =>
      have place : (Call.replaceDeployment repaired).place nginx = .one nginx.deploymentKey := rfl
      simp only [place, sent, method, body, Option.map_some, Option.getD_some] at conflict
      split at conflict
      · rename_i document version found named
        split at conflict
        · cases conflict
        · rename_i other
          cases conflict
          exact ⟨repaired, document, version, rfl, rfl, found, named, other⟩
      · cases conflict
  | createDeployment | createService | listPods | recordPods pods => cases conflict
  | fetchDeployment => cases conflict

end Call

/-- A call has its effect, or it replaces a deployment that has another version. -/
theorem VersionedStore.Serves.effect {nginx : Nginx} (admissible : nginx.Admissible) {call : Call}
    {state next : VersionedStore} {outcome : Outcome}
    (served : state.Serves (call.sent nginx) outcome next) :
    (∃ version, call.effect (fun _ body => body.withVersion version) nginx state.store =
      (call.read outcome, next.store)) ∨
    (∃ repaired document version, call = .replaceDeployment repaired ∧
      state.store.get? nginx.deploymentKey = some document ∧
      repaired.toJson.received.metadataText? "resourceVersion" = some version ∧
      document.metadataText? "resourceVersion" ≠ some version ∧
      call.read outcome = .error (Call.outdated nginx.deploymentKey) ∧
      next.store = state.store) := by
  unfold Serves at served
  split at served
  · rename_i key conflict
    obtain ⟨rfl, rfl⟩ := served
    obtain ⟨repaired, document, version, rfl, rfl, found, named, other⟩ :=
      Call.conflict?_sent admissible conflict
    refine .inr ⟨repaired, document, version, rfl, found, named, other, ?_, rfl⟩
    simp only [Call.read, ObjectStore.conflict, readAnswer_refusal _ (rfl : isFailure 409 = true)]
    rfl
  · obtain ⟨version, -, -, outcome⟩ := served
    refine .inl ⟨version, ?_⟩
    rw [← Call.read_serveWith admissible, outcome]

end NginxFleet
