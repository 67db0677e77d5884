/-
Module: NginxFleet.Proofs.Overlap.Creation
Layer: Proofs
Purpose: Creates that take effect, counted along a history of requests. A create takes effect only
  where nothing is, and leaves an object there. As nothing is ever removed, the creates of one kind
  that took effect are as many as there are objects under the one key they are about: none or one.
Main exports: Creates, Call.created?_of_creates, VersionedStore.Serves.created, CreatedOnce,
  CreatedOnce.append
-/
import NginxFleet.Proofs.Server.Versioned

namespace NginxFleet

/-- Whether an outcome is an answer of success. -/
def Outcome.succeeded : Outcome → Bool
  | .answer status _ => !isFailure status
  | .failure _ => false

/-- Whether a request that was executed created an object of a collection. -/
def Creates (collection : String) (exchange : Request × Outcome) : Bool :=
  exchange.1.method = .post &&
    (Place.ofPath? exchange.1.target.path).any (·.collection = collection) &&
    exchange.2.succeeded

/-- A refusal is not read in an answer of success. -/
theorem readAnswer_ne_refused {α : Type} (read : Json → Option α) {outcome : Outcome}
    (succeeded : outcome.succeeded) (reply : ErrorReply) :
    readAnswer read outcome ≠ .error (.refused reply) := by
  cases outcome with
  | failure reason => cases succeeded
  | answer status body =>
      have success : isFailure status = false := by simpa [Outcome.succeeded] using succeeded
      rw [readAnswer, success]
      simp only [Bool.false_eq_true, if_false]
      split
      · simp
      · split <;> simp

namespace Call

theorem read_ne_refused (call : Call) {outcome : Outcome} (succeeded : outcome.succeeded)
    (reply : ErrorReply) : call.read outcome ≠ .error (.refused reply) := by
  have unread : ∀ {α : Type} (read : Json → Option α) (wrap : α → Reply),
      (readAnswer read outcome).map wrap ≠ .error (.refused reply) := by
    intro α read wrap refused
    have unread := readAnswer_ne_refused read succeeded reply
    cases answer : readAnswer read outcome with
    | ok value =>
        rw [answer] at refused
        cases refused
    | error cause =>
        rw [answer] at refused unread
        cases refused
        exact unread rfl
  cases call <;> exact unread _ _

/-- A request that created a deployment or a service was sent by the create of the instance. -/
theorem created?_of_creates {nginx : Nginx} (admissible : nginx.Admissible) {call : Call}
    {key : ObjectKey} {outcome : Outcome}
    (about : key = nginx.deploymentKey ∨ key = nginx.serviceKey)
    (creates : Creates key.collection (call.sent nginx, outcome)) :
    call.created? nginx = some key ∧ outcome.succeeded := by
  unfold Creates at creates
  rw [ofPath?_sent admissible, Bool.and_eq_true, Bool.and_eq_true] at creates
  obtain ⟨⟨posted, place⟩, succeeded⟩ := creates
  refine ⟨?_, succeeded⟩
  cases call with
  | createDeployment =>
      rcases about with rfl | rfl
      · rfl
      · simp [Call.place, Place.collection, Nginx.serviceKey] at place
  | createService =>
      rcases about with rfl | rfl
      · simp [Call.place, Place.collection, Nginx.deploymentKey] at place
      · rfl
  | fetchDeployment | replaceDeployment repaired | listPods | recordPods pods =>
      simp [sent, method] at posted

end Call

/-- A create takes effect only where nothing is, and leaves an object there. -/
theorem VersionedStore.Serves.created {nginx : Nginx} (admissible : nginx.Admissible) {call : Call}
    {state next : VersionedStore} {outcome : Outcome} {key : ObjectKey}
    (served : state.Serves (call.sent nginx) outcome next)
    (about : key = nginx.deploymentKey ∨ key = nginx.serviceKey)
    (creates : Creates key.collection (call.sent nginx, outcome)) :
    state.store.get? key = none ∧ (next.store.get? key).isSome := by
  obtain ⟨created, succeeded⟩ := Call.created?_of_creates admissible about creates
  rcases served.effect admissible with
    ⟨version, effect⟩ | ⟨repaired, document, version, rfl, -⟩
  · have unread := call.read_ne_refused succeeded
    cases call with
    | createDeployment | createService =>
        cases created
        simp only [Call.effect] at effect
        split at effect
        · obtain ⟨read, -⟩ := Prod.mk.inj effect
          exact absurd read.symm (unread _)
        · rename_i free
          obtain ⟨-, stored⟩ := Prod.mk.inj effect
          refine ⟨free, ?_⟩
          rw [← stored, ObjectStore.get?_put, if_pos rfl]
          rfl
    | fetchDeployment | replaceDeployment repaired | listPods | recordPods pods => cases created
  · cases created

/-!
### Counting
-/

/-- The creates of a kind that took effect are as many as there are objects under a key, if not
    fewer: the object may have been there before. -/
def CreatedOnce (executed : List (Request × Outcome)) (store : ObjectStore) (key : ObjectKey) :
    Prop :=
  executed.countP (Creates key.collection) ≤ if (store.get? key).isSome then 1 else 0

theorem CreatedOnce.start (store : ObjectStore) (key : ObjectKey) : CreatedOnce [] store key :=
  Nat.zero_le _

theorem CreatedOnce.count_le_one {executed : List (Request × Outcome)} {store : ObjectStore}
    {key : ObjectKey} (once : CreatedOnce executed store key) :
    executed.countP (Creates key.collection) ≤ 1 := by
  apply once.trans
  split <;> omega

/-- The count stays right when a request is executed that takes nothing away, and that creates an
    object of the kind only under a key that is free. -/
theorem CreatedOnce.append {executed : List (Request × Outcome)} {store next : ObjectStore}
    {key : ObjectKey} {exchange : Request × Outcome} (once : CreatedOnce executed store key)
    (stays : (store.get? key).isSome → (next.get? key).isSome)
    (fresh : Creates key.collection exchange →
      store.get? key = none ∧ (next.get? key).isSome) :
    CreatedOnce (executed ++ [exchange]) next key := by
  unfold CreatedOnce at once ⊢
  rw [List.countP_append, List.countP_singleton]
  by_cases creates : Creates key.collection exchange
  · obtain ⟨free, there⟩ := fresh creates
    rw [free] at once
    rw [if_pos creates, if_pos there]
    exact Nat.add_le_add_right once 1
  · rw [if_neg creates, Nat.add_zero]
    by_cases present : (store.get? key).isSome
    · rw [if_pos present] at once
      rw [if_pos (stays present)]
      exact once
    · rw [if_neg present] at once
      exact once.trans (Nat.zero_le _)

end NginxFleet
