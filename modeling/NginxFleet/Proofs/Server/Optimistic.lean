/-
Module: NginxFleet.Proofs.Server.Optimistic
Layer: Proofs
Purpose: A server with optimistic concurrency. Every write gives an object a version that none had
  before, and neither an object nor its status is replaced by a request that names another version
  than the stored one. Whoever writes in whatever order, an object that is found under the version
  under which it was once read is the object that was read.
Main exports: ObjectStore.outdated?, VersionedStore.Executes, VersionedStore.Executes.effect,
  VersionedStore.Rewritten, VersionedStore.Numbered, VersionedStore.Remembers,
  VersionedStore.Executes.rewritten, VersionedStore.execute
-/
import NginxFleet.Proofs.Server.Versioned

namespace NginxFleet

open Json

namespace ObjectStore

/-- The key of the object that a request replaces, or of which it replaces the status. -/
def replacedKey? (request : Request) : Option ObjectKey :=
  match Place.ofPath? request.target.path, request.method with
  | some (.one key), .put => some key
  | some (.status key), .put => some key
  | _, _ => none

/-- The key of the object that a request would replace, or of which it would replace the status,
    although it names another version than the stored one. -/
def outdated? (store : ObjectStore) (request : Request) : Option ObjectKey :=
  (replacedKey? request).filter fun key =>
    match store.get? key, (request.body.getD .null).metadataText? "resourceVersion" with
    | some document, some version => document.metadataText? "resourceVersion" != some version
    | _, _ => false

/-- A request that is let through names the version of the object that it replaces, if it names one. -/
theorem version_of_not_outdated {store : ObjectStore} {request : Request} {key : ObjectKey}
    {document : Json} {version : String} (replaces : replacedKey? request = some key)
    (current : store.outdated? request = none) (found : store.get? key = some document)
    (named : (request.body.getD .null).metadataText? "resourceVersion" = some version) :
    document.metadataText? "resourceVersion" = some version := by
  simpa [outdated?, replaces, found, named] using current

end ObjectStore

namespace Call

variable {nginx : Nginx}

theorem replacedKey?_replaceDeployment (admissible : nginx.Admissible) (repaired : Deployment) :
    ObjectStore.replacedKey? ((Call.replaceDeployment repaired).sent nginx) =
      some nginx.deploymentKey := by
  rw [ObjectStore.replacedKey?, ofPath?_sent admissible]
  rfl

theorem replacedKey?_recordPods (admissible : nginx.Admissible) (pods : List PodEntry) :
    ObjectStore.replacedKey? ((Call.recordPods pods).sent nginx) = some nginx.storeKey := by
  rw [ObjectStore.replacedKey?, ofPath?_sent admissible]
  rfl

end Call

namespace VersionedStore

/-- A request is executed, at once and as a whole, by a server with optimistic concurrency: it is
    refused, or what it writes is given a version that was never given before. -/
inductive Executes (state : VersionedStore) (request : Request) :
    Outcome → VersionedStore → Prop where
  | refused {key : ObjectKey} (outdated : state.store.outdated? request = some key) :
      Executes state request (ObjectStore.conflict key) state
  | served {version : String} {outcome : Outcome} {next : ObjectStore}
      (current : state.store.outdated? request = none) (fresh : version ∉ state.given)
      (served : state.store.serveWith (fun _ body => body.withVersion version) request =
        (outcome, next)) :
      Executes state request outcome { store := next, given := version :: state.given }

/-- A call meets a conflict, which leaves all as it is, or has its effect. -/
theorem Executes.effect {nginx : Nginx} (admissible : nginx.Admissible) {call : Call}
    {state next : VersionedStore} {outcome : Outcome}
    (executes : state.Executes (call.sent nginx) outcome next) :
    (∃ key, outcome = ObjectStore.conflict key ∧ next = state) ∨
    (state.store.outdated? (call.sent nginx) = none ∧
      ∃ version, version ∉ state.given ∧ next.given = version :: state.given ∧
        call.effect (fun _ body => body.withVersion version) nginx state.store =
          (call.read outcome, next.store)) := by
  cases executes with
  | refused outdated => exact .inl ⟨_, rfl, rfl⟩
  | @served version _ _ current fresh served =>
      refine .inr ⟨current, version, fresh, rfl, ?_⟩
      rw [← Call.read_serveWith admissible, served]

/-!
### Whoever writes
-/

/-- Objects were written or removed by anyone: an object that is not as before has a version that none
    had before. -/
structure Rewritten (state next : VersionedStore) : Prop where
  given : ∀ version ∈ state.given, version ∈ next.given
  objects : ∀ key document, next.store.get? key = some document →
    state.store.get? key = some document ∨ ∃ version, version ∈ next.given ∧
      version ∉ state.given ∧ document.metadataText? "resourceVersion" = some version

/-- Every object has a version that was given to it. -/
def Numbered (state : VersionedStore) : Prop :=
  ∀ key document, state.store.get? key = some document →
    ∃ version, version ∈ state.given ∧ document.metadataText? "resourceVersion" = some version

/-- A document was once stored under a key: what is under the key with its version is this document. -/
structure Remembers (state : VersionedStore) (key : ObjectKey) (document : Json) : Prop where
  named : ∃ version, version ∈ state.given ∧
    document.metadataText? "resourceVersion" = some version
  same : ∀ stored, state.store.get? key = some stored →
    stored.metadataText? "resourceVersion" = document.metadataText? "resourceVersion" →
      stored = document

variable {state next : VersionedStore} {key : ObjectKey} {document : Json} {version : String}

theorem Rewritten.refl (state : VersionedStore) : state.Rewritten state :=
  ⟨fun _ given => given, fun _ _ found => .inl found⟩

theorem Rewritten.of_same (same : next.store = state.store)
    (given : next.given = version :: state.given) : state.Rewritten next := by
  constructor
  · intro known among
    rw [given]
    exact List.mem_cons_of_mem _ among
  · intro key document found
    rw [same] at found
    exact .inl found

/-- An object is written. -/
theorem Rewritten.of_put {members : List (String × Json)} (fresh : version ∉ state.given)
    (given : next.given = version :: state.given)
    (stored : next.store = state.store.put key ((Json.obj members).withVersion version)) :
    state.Rewritten next := by
  constructor
  · intro known among
    rw [given]
    exact List.mem_cons_of_mem _ among
  · intro other document found
    rw [stored, ObjectStore.get?_put] at found
    split at found
    · cases found
      refine .inr ⟨version, ?_, fresh, metadataText?_withVersion version members⟩
      rw [given]
      exact List.mem_cons_self
    · exact .inl found

/-- All objects stay numbered, whoever writes. -/
theorem Numbered.rewritten (numbered : state.Numbered) (rewritten : state.Rewritten next) :
    next.Numbered := by
  intro key document found
  rcases rewritten.objects key document found with kept | ⟨version, given, -, named⟩
  · obtain ⟨version, given, named⟩ := numbered key document kept
    exact ⟨version, rewritten.given version given, named⟩
  · exact ⟨version, given, named⟩

/-- What is stored can be told by its version from all that may be stored later. -/
theorem Numbered.remembers (numbered : state.Numbered)
    (found : state.store.get? key = some document) : state.Remembers key document := by
  refine ⟨numbered key document found, ?_⟩
  intro stored held _
  rw [found] at held
  exact (Option.some.inj held).symm

/-- A document is remembered, whoever writes: another one would have a version of its own. -/
theorem Remembers.rewritten (remembers : state.Remembers key document)
    (rewritten : state.Rewritten next) : next.Remembers key document := by
  obtain ⟨version, given, named⟩ := remembers.named
  refine ⟨⟨version, rewritten.given version given, named⟩, ?_⟩
  intro stored found alike
  rcases rewritten.objects key stored found with kept | ⟨other, -, fresh, names⟩
  · exact remembers.same stored kept alike
  · rw [names, named] at alike
    cases alike
    exact absurd given fresh

/-- The requests of the operator are executed as those of any writer are. -/
theorem Executes.rewritten {nginx : Nginx} (admissible : nginx.Admissible) (numbered : state.Numbered)
    {call : Call} {outcome : Outcome} (executes : state.Executes (call.sent nginx) outcome next) :
    state.Rewritten next := by
  rcases executes.effect admissible with ⟨key, -, rfl⟩ | ⟨-, version, fresh, given, effect⟩
  · exact .refl _
  · have stored := congrArg Prod.snd effect
    cases call with
    | createDeployment | createService =>
        simp only [Call.effect] at stored
        split at stored
        · exact .of_same stored.symm given
        · exact .of_put fresh given stored.symm
    | fetchDeployment =>
        simp only [Call.effect] at stored
        split at stored
        · exact .of_same stored.symm given
        · exact .of_same stored.symm given
    | replaceDeployment repaired =>
        simp only [Call.effect] at stored
        split at stored
        · exact .of_put fresh given stored.symm
        · exact .of_same stored.symm given
    | listPods => exact .of_same stored.symm given
    | recordPods pods =>
        simp only [Call.effect] at stored
        split at stored
        · rename_i document found
          obtain ⟨held, -, named⟩ := numbered nginx.storeKey document found
          obtain ⟨members, rfl⟩ := obj_of_metadataText? named
          exact .of_put fresh given stored.symm
        · exact .of_same stored.symm given

/-!
### A server that does so
-/

/-- The outcome of a request, and the store afterwards, on a server with optimistic concurrency. -/
def execute (state : VersionedStore) (request : Request) : Outcome × VersionedStore :=
  match state.store.outdated? request with
  | some key => (ObjectStore.conflict key, state)
  | none =>
    let version := state.newVersion
    let (outcome, store) := state.store.serveWith (fun _ body => body.withVersion version) request
    (outcome, { store, given := version :: state.given })

theorem executes_execute (state : VersionedStore) (request : Request) :
    state.Executes request (state.execute request).1 (state.execute request).2 := by
  unfold execute
  cases outdated : state.store.outdated? request with
  | some key => exact .refused outdated
  | none => exact .served outdated state.isNew_newVersion.1 rfl

/-- Another writer stores an object under a key. -/
def edit (state : VersionedStore) (key : ObjectKey) (members : List (String × Json)) :
    VersionedStore where
  store := state.store.put key ((Json.obj members).withVersion state.newVersion)
  given := state.newVersion :: state.given

theorem rewritten_edit (state : VersionedStore) (key : ObjectKey)
    (members : List (String × Json)) : state.Rewritten (state.edit key members) :=
  .of_put state.isNew_newVersion.1 rfl rfl

end VersionedStore

end NginxFleet
