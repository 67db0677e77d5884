/-
Module: NginxFleet.Proofs.Convergence.Retry
Layer: Proofs
Purpose: An instance may be handled again after any failure. The server stores documents as they come,
  but for a version that it may give them, and any request may be lost before it is executed or after.
  However many attempts failed and wherever, the next one without faults ends well, and leaves the
  store in which a single attempt from the start would have left it, aside from versions.
Main exports: keeps_stamps, Redispatched, Redispatched.progress, retries_converge
-/
import NginxFleet.Proofs.Convergence.Run
import NginxFleet.Proofs.Reconcile.Versions

namespace NginxFleet

open Json

/-!
### Servers that give versions
-/

theorem Nginx.ofJson?_stamped {key : ObjectKey} {members : List (String × Json)} {nginx : Nginx}
    {status : NginxStatus} {document : Json}
    (reading : ofJson? (Json.obj members).received = some nginx)
    (stamps : Stamps key (setMember "status" status.toJson (.obj members)) document) :
    ∃ fields snapshot, document = .obj fields ∧ ofJson? document.received = some snapshot ∧
      snapshot.Renews nginx ∧ snapshot.status = some status := by
  have stored := ofJson?_recorded reading status
  rcases stamps with rfl | ⟨version, rfl⟩
  · exact ⟨_, _, rfl, stored, .withStatus _ nginx, rfl⟩
  · refine ⟨_, Nginx.withVersion version { nginx with status := some status }, rfl, ?_, rfl, rfl⟩
    rw [received_withVersion]
    rw [setMember, Json.received] at stored ⊢
    exact ofJson?_withVersion version stored

/-- A server that gives versions keeps what the operator looks at. -/
theorem keeps_stamps (nginx : Nginx) : Keeps Stamps nginx where
  deployment := fun _ _ => Deployment.ownedFields_stamped
  service := fun _ => Service.isSome_stamped
  recorded := by
    intro members pods document reading stamps
    obtain ⟨fields, snapshot, shape, read, renews, status⟩ :=
      Nginx.ofJson?_stamped reading stamps
    refine ⟨fields, snapshot, shape, read, renews, ?_⟩
    rw [Nginx.storedPods, status]

/-- Stores in which one plan is carried out are the same, aside from versions. -/
theorem Done.withoutVersion_eq {nginx : Nginx} {start store other : ObjectStore} {key : ObjectKey}
    (first : Done Stamps nginx start store key) (second : Done Stamps nginx start other key) :
    (store.get? key).map withoutVersion = (other.get? key).map withoutVersion := by
  cases planned : nginx.plan start key with
  | none =>
      rw [Done.of_plan_none planned] at first second
      rw [first, second]
  | some body =>
      obtain ⟨document, found, stamps⟩ := (Done.of_plan_some planned).mp first
      obtain ⟨document', found', stamps'⟩ := (Done.of_plan_some planned).mp second
      rw [found, found', Option.map_some, Option.map_some, stamps.withoutVersion_eq stamps']

/-!
### Attempts that may fail
-/

/-- The instance that is stored under a key is read and handled, any number of times. -/
inductive Redispatched {σ : Type} (answer : σ → Request → Outcome × σ) (store : σ → ObjectStore)
    (key : ObjectKey) : σ → σ → Prop where
  | none (state : σ) : Redispatched answer store key state state
  | again {state final : σ} {nginx : Nginx} (stored : (store state).instanceAt? key = some nginx)
      (rest : Redispatched answer store key
        ((dispatch (.ofNginx nginx)).run answer state).state final) :
      Redispatched answer store key state final

variable {σ : Type} {finished : ObjectKey → Json → Json → Prop} {nginx : Nginx}
  {start : ObjectStore}

/-- Any number of attempts keeps the progress. -/
theorem Redispatched.progress {answer : σ → Request → Outcome × σ} {store : σ → ObjectStore}
    (faulty : Through (ServesFaulty finished) store answer) (admissible : nginx.Admissible)
    (present : nginx.isDeleted = false) (readable : nginx.ReadableIn start)
    (keeps : Keeps finished nginx) {before after : σ}
    (attempts : Redispatched answer store nginx.storeKey before after)
    (progress : Progress finished nginx start (store before)) :
    Progress finished nginx start (store after) := by
  induction attempts with
  | none state => exact progress
  | again stored rest ih =>
      obtain ⟨snapshot, read, fresh⟩ := progress.resume readable keeps
      rw [stored] at read
      cases read
      have there := fresh.renews.isDeleted_eq.trans present
      exact ih (progress.attempt faulty admissible readable keeps there fresh)

/-- Whatever faults any number of attempts met, the stored instance can be read again, handling it
    without faults ends well, and the store is then the one that a single attempt without faults
    leaves, aside from versions. -/
theorem retries_converge {τ : Type} {faulty : σ → Request → Outcome × σ}
    {reliable : τ → Request → Outcome × τ} {view : σ → ObjectStore} {store : τ → ObjectStore}
    (faults : Through (ServesFaulty Stamps) view faulty)
    (serves : Through (Serves Stamps) store reliable)
    (admissible : nginx.Admissible) (present : nginx.isDeleted = false) {before after : σ}
    (readable : nginx.ReadableIn (view before))
    (attempts : Redispatched faulty view nginx.storeKey before after)
    {once again : τ} (begins : store once = view before) (resumes : store again = view after) :
    ∃ snapshot, (view after).instanceAt? nginx.storeKey = some snapshot ∧
      let single := (dispatch (.ofNginx nginx)).run reliable once
      let last := (dispatch (.ofNginx snapshot)).run reliable again
      last.result = .ok () ∧
        ∀ key, ((store last.state).get? key).map withoutVersion =
          ((store single.state).get? key).map withoutVersion := by
  have keeps := keeps_stamps nginx
  have started : Progress Stamps nginx (view before) (view before) := .refl _ _ _
  have progress := attempts.progress faults admissible present readable keeps started
  obtain ⟨snapshot, stored, fresh⟩ := progress.resume readable keeps
  obtain ⟨first, read, begun⟩ := started.resume readable keeps
  rw [readable.stored.instanceAt?] at read
  cases read
  have there := fresh.renews.isDeleted_eq.trans present
  rw [← resumes] at progress fresh
  rw [← begins] at started begun
  obtain ⟨ended, settled⟩ := progress.settle serves admissible readable keeps there fresh
  obtain ⟨-, reached⟩ := started.settle serves admissible (begins ▸ readable) keeps present begun
  refine ⟨snapshot, stored, ended, ?_⟩
  intro key
  exact (settled key).withoutVersion_eq (begins ▸ reached key)

/-- A server that executes requests and loses their answers as scheduled. -/
def answerLosing (state : ObjectStore × List Bool) (request : Request) :
    Outcome × (ObjectStore × List Bool) :=
  let (outcome, next) := state.1.serve request
  match state.2 with
  | true :: later => (.failure "connection reset by peer", (next, later))
  | false :: later => (outcome, (next, later))
  | [] => (outcome, (next, []))

theorem through_serve_stamps : Through (Serves Stamps) (fun store => store) ObjectStore.serve :=
  through_serve fun _ _ => .inl rfl

theorem through_answerLosing : Through (ServesFaulty Stamps) Prod.fst answerLosing := by
  rintro ⟨store, schedule⟩ request
  have served : Serves Stamps store request (store.serve request).1 (store.serve request).2 :=
    through_serve_stamps store request
  match schedule with
  | [] => exact .answered served
  | false :: later => exact .answered served
  | true :: later => exact .answerLost _ served

/-- The drifted deployment is replaced and the answer is lost; the next attempt ends well. -/
theorem retries_converge_after_lost_answer :
    let before := (driftedStore, [false, false, true])
    let after := ((dispatch (.ofNginx declaredNginx)).run answerLosing before).state
    ∃ snapshot, after.1.instanceAt? declaredNginx.storeKey = some snapshot ∧
      let single := (dispatch (.ofNginx declaredNginx)).run ObjectStore.serve driftedStore
      let last := (dispatch (.ofNginx snapshot)).run ObjectStore.serve after.1
      last.result = .ok () ∧
        ∀ key, (last.state.get? key).map withoutVersion =
          (single.state.get? key).map withoutVersion :=
  retries_converge through_answerLosing through_serve_stamps admissible_declaredNginx rfl
    readableIn_driftedStore (.again readableIn_driftedStore.stored.instanceAt? (.none _)) rfl rfl

end NginxFleet
