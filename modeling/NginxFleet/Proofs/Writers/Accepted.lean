/-
Module: NginxFleet.Proofs.Writers.Accepted
Layer: Proofs
Purpose: Which requests change which objects. A request that is not answered with success changes
  nothing; of those that are, only one that replaces an object or its status changes an object that
  was there before.
Main exports: acceptedPlace?, KeepsObjects, ObjectStore.serveWith_rejected,
  VersionedStore.Executes.rejected, Call.keepsObjects_of_effect
-/
import NginxFleet.Proofs.Overlap.Creation
import NginxFleet.Proofs.Server.Optimistic

namespace NginxFleet

/-- The place of which an accepted request replaces what is there. -/
def acceptedPlace? (request : Request) (outcome : Outcome) : Option Place :=
  if request.method = .put ∧ outcome.succeeded then Place.ofPath? request.target.path else none

/-- Every object that is stored stays as it is. -/
def KeepsObjects (store next : ObjectStore) : Prop :=
  ∀ key document, store.get? key = some document → next.get? key = some document

theorem KeepsObjects.refl (store : ObjectStore) : KeepsObjects store store :=
  fun _ _ found => found

/-- An object is stored under a key that was free. -/
theorem KeepsObjects.put {store : ObjectStore} {key : ObjectKey} {document : Json}
    (free : store.get? key = none) : KeepsObjects store (store.put key document) := by
  intro other stored found
  rw [ObjectStore.get?_put, if_neg]
  · exact found
  · rintro rfl
    rw [free] at found
    cases found

/-!
### Requests that are not answered with success
-/

namespace ObjectStore

variable {finish : ObjectKey → Json → Json} {store next : ObjectStore} {outcome : Outcome}

theorem serveChange_rejected {key : ObjectKey} {change : Json → Json}
    (served : store.serveChange key change = (outcome, next))
    (rejected : outcome.succeeded = false) : next = store := by
  unfold serveChange at served
  split at served
  · cases served
    cases rejected
  · cases served
    rfl

theorem createWith_rejected {collection namespaceName : String} {object : Json}
    (served : store.createWith finish collection namespaceName object = (outcome, next))
    (rejected : outcome.succeeded = false) : next = store := by
  unfold createWith serveCreate at served
  cases found : store.get? ⟨collection, namespaceName, (object.metadataText? "name").getD ""⟩ with
  | some document =>
      simp only [found] at served
      cases served
      rfl
  | none =>
      simp only [found] at served
      cases served
      cases rejected

/-- A request that is not answered with success leaves the store as it is. -/
theorem serveWith_rejected {request : Request}
    (served : store.serveWith finish request = (outcome, next))
    (rejected : outcome.succeeded = false) : next = store := by
  unfold serveWith at served
  dsimp only at served
  split at served
  · exact createWith_rejected served rejected
  · exact serveChange_rejected served rejected
  · exact serveChange_rejected served rejected
  · rename_i notCreate notReplace notStatus
    unfold serve at served
    dsimp only at served
    split at served
    · rename_i place method
      exact absurd method (notCreate _ _ place)
    · cases served
      rfl
    · cases served
      rfl
    · rename_i place method
      exact absurd method (notReplace _ place)
    · rename_i place method
      exact absurd method (notStatus _ place)
    · cases served
      rfl

end ObjectStore

theorem VersionedStore.Executes.rejected {state next : VersionedStore} {request : Request}
    {outcome : Outcome} (executes : state.Executes request outcome next)
    (rejected : outcome.succeeded = false) : next.store = state.store := by
  cases executes with
  | refused outdated => rfl
  | served current fresh served => exact ObjectStore.serveWith_rejected served rejected

/-!
### Calls that replace nothing
-/

/-- A call that replaces nothing leaves every object as it is. -/
theorem Call.keepsObjects_of_effect {nginx : Nginx} {call : Call}
    {finish : ObjectKey → Json → Json} {store after : ObjectStore}
    {result : Except ClientError Reply} (other : call.method ≠ .put)
    (effect : call.effect finish nginx store = (result, after)) : KeepsObjects store after := by
  have write : (call.effect finish nginx store).2 = after := congrArg Prod.snd effect
  cases call with
  | createDeployment | createService =>
      simp only [Call.effect] at write
      split at write
      · subst write
        exact .refl store
      · rename_i free
        subst write
        exact .put free
  | fetchDeployment =>
      simp only [Call.effect] at write
      split at write
      · subst write
        exact .refl store
      · subst write
        exact .refl store
  | listPods =>
      subst write
      exact .refl store
  | replaceDeployment repaired => exact absurd rfl other
  | recordPods pods => exact absurd rfl other

end NginxFleet
