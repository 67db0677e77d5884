/-
Module: NginxFleet.Proofs.Convergence.Demand
Layer: Proofs
Purpose: What an instance asks for, which is all of it but its version and its status. The objects
  built for an instance, their places and the effects of its calls depend on nothing else. So the
  snapshot of an instance that is read again after its status was recorded asks for the same.
Main exports: Nginx.demand, Nginx.Renews, Nginx.Renews.effect_eq
-/
import NginxFleet.Proofs.Server.Effect

namespace NginxFleet

namespace Nginx

/-- An instance without what the server and the operator write into it. -/
def demand (nginx : Nginx) : Nginx where
  metadata := { nginx.metadata with resourceVersion := none }
  spec := nginx.spec

/-- A snapshot asks for what another one asks for. -/
def Renews (snapshot nginx : Nginx) : Prop :=
  snapshot.demand = nginx.demand

namespace Renews

variable {snapshot nginx : Nginx}

theorem refl (nginx : Nginx) : nginx.Renews nginx := rfl

theorem withVersion (version : String) (nginx : Nginx) :
    (nginx.withVersion version).Renews nginx := rfl

theorem withStatus (status : Option NginxStatus) (nginx : Nginx) :
    Renews { nginx with status } nginx := rfl

theorem trans {later : Nginx} (first : later.Renews snapshot) (second : snapshot.Renews nginx) :
    later.Renews nginx :=
  Eq.trans first second

/-- What is a function of the demand is the same for a snapshot. -/
theorem apply {α : Type} (renews : snapshot.Renews nginx) (f : Nginx → α)
    (depends : ∀ instance', f instance'.demand = f instance') : f snapshot = f nginx := by
  rw [← depends snapshot, ← depends nginx, renews]

theorem desiredDeployment_eq (renews : snapshot.Renews nginx) :
    snapshot.desiredDeployment = nginx.desiredDeployment :=
  renews.apply desiredDeployment fun _ => rfl

theorem isDeleted_eq (renews : snapshot.Renews nginx) : snapshot.isDeleted = nginx.isDeleted :=
  renews.apply isDeleted fun _ => rfl

theorem podList_eq (renews : snapshot.Renews nginx) (store : ObjectStore) :
    snapshot.podList store = nginx.podList store :=
  renews.apply (fun instance' => instance'.podList store) fun _ => rfl

theorem admissible (renews : snapshot.Renews nginx) (admissible : nginx.Admissible) :
    snapshot.Admissible := by
  have name : snapshot.metadata.name = nginx.metadata.name :=
    renews.apply (fun instance' => instance'.metadata.name) fun _ => rfl
  have namespaceName : snapshot.metadata.namespaceName = nginx.metadata.namespaceName :=
    renews.apply (fun instance' => instance'.metadata.namespaceName) fun _ => rfl
  exact ⟨name ▸ admissible.name, namespaceName ▸ admissible.namespaceName⟩

/-- A call has the same effect for a snapshot. -/
theorem effect_eq (renews : snapshot.Renews nginx) (finish : ObjectKey → Json → Json)
    (store : ObjectStore) (call : Call) :
    call.effect finish snapshot store = call.effect finish nginx store :=
  renews.apply (fun instance' => call.effect finish instance' store) fun _ => by cases call <;> rfl

end Renews

end Nginx

end NginxFleet
