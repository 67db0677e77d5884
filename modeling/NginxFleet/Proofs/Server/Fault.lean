/-
Module: NginxFleet.Proofs.Server.Fault
Layer: Proofs
Purpose: Servers over a store, as relations. A server may keep a state of its own as long as its store
  goes as the relation says, so it may number versions or follow a schedule of faults. A fault loses a
  request before it is executed, or its answer afterwards. Whatever happens to the request of a call,
  the store is as before or as after the effect of the call, and the caller knows which unless the
  call failed.
Main exports: Serves, ServesFaulty, Through, through_serve, Performs.effect,
  Performs.effect_or_fault
-/
import NginxFleet.Proofs.Server.Effect

namespace NginxFleet

section Servers

variable (finished : ObjectKey → Json → Json → Prop)

/-- A request is executed and answered, by a server whose documents in the store are finished forms of
    the bodies it was sent. -/
def Serves (store : ObjectStore) (request : Request) (outcome : Outcome)
    (next : ObjectStore) : Prop :=
  ∃ finish, (∀ key body, finished key body (finish key body)) ∧
    store.serveWith finish request = (outcome, next)

/-- The same server, when any request may be hit by a fault. -/
inductive ServesFaulty (store : ObjectStore) (request : Request) : Outcome → ObjectStore → Prop where
  | answered {outcome : Outcome} {next : ObjectStore}
      (served : Serves finished store request outcome next) :
      ServesFaulty store request outcome next
  | requestLost (reason : String) :
      ServesFaulty store request (.failure reason) store
  | answerLost {outcome : Outcome} {next : ObjectStore} (reason : String)
      (served : Serves finished store request outcome next) :
      ServesFaulty store request (.failure reason) next

end Servers

/-- A server with a state of its own keeps its store as a relation says. -/
def Through {σ : Type} (serves : ObjectStore → Request → Outcome → ObjectStore → Prop)
    (store : σ → ObjectStore) (answer : σ → Request → Outcome × σ) : Prop :=
  ∀ state request,
    serves (store state) request (answer state request).1 (store (answer state request).2)

/-- A walk on a server is a walk on its store. -/
theorem Through.handles {σ : Type}
    {serves : ObjectStore → Request → Outcome → ObjectStore → Prop} {store : σ → ObjectStore}
    {answer : σ → Request → Outcome × σ} (through : Through serves store answer) {nginx : Nginx}
    {scope : Call → Bool} {state final : σ} {call : Call} {records : List CallRecord}
    {result : Except OperatorError Unit}
    (walk : Handles (Answers answer) nginx scope state call records result final) :
    Handles serves nginx scope (store state) call records result (store final) := by
  apply walk.map store
  intro state request outcome next answered
  have served := through state request
  rw [answered] at served
  exact served

/-- The plain server is one that may finish documents, if it need not. -/
theorem through_serve {finished : ObjectKey → Json → Json → Prop}
    (plain : ∀ key body, finished key body body) :
    Through (Serves finished) (fun store => store) ObjectStore.serve := by
  intro store request
  exact ⟨fun _ body => body, plain, store.serveWith_id request⟩

section Calls

variable {finished : ObjectKey → Json → Json → Prop} {nginx : Nginx} {store next : ObjectStore}
  {record : CallRecord}

/-- A call that is executed and answered has its effect. -/
theorem Performs.effect (admissible : nginx.Admissible)
    (performed : Performs (Serves finished) nginx store record next) :
    ∃ finish, (∀ key body, finished key body (finish key body)) ∧
      record.call.effect finish nginx store = (record.result, next) := by
  cases performed with
  | unbuilt unbuilt =>
      rw [Call.request_eq_sent admissible] at unbuilt
      cases unbuilt
  | sent built served =>
      rw [Call.request_eq_sent admissible] at built
      cases built
      obtain ⟨finish, allowed, outcome⟩ := served
      refine ⟨finish, allowed, ?_⟩
      rw [← Call.read_serveWith admissible, outcome]

theorem Call.failure?_of_lost (call : Call) (reason : String) :
    (call.failure? (call.read (.failure reason))).isSome := by
  cases call <;> rfl

/-- A call that may be hit by a fault has its effect, or it failed and has its effect or none. -/
theorem Performs.effect_or_fault (admissible : nginx.Admissible)
    (performed : Performs (ServesFaulty finished) nginx store record next) :
    (∃ finish, (∀ key body, finished key body (finish key body)) ∧
      record.call.effect finish nginx store = (record.result, next)) ∨
    record.failure?.isSome ∧
      (next = store ∨ ∃ finish, (∀ key body, finished key body (finish key body)) ∧
        (record.call.effect finish nginx store).2 = next) := by
  cases performed with
  | unbuilt unbuilt =>
      rw [Call.request_eq_sent admissible] at unbuilt
      cases unbuilt
  | sent built served =>
      cases served with
      | answered served => exact .inl (Performs.effect admissible (.sent built served))
      | requestLost reason => exact .inr ⟨Call.failure?_of_lost _ reason, .inl rfl⟩
      | answerLost reason served =>
          obtain ⟨finish, allowed, effect⟩ := Performs.effect admissible (.sent built served)
          refine .inr ⟨Call.failure?_of_lost _ reason, .inr ⟨finish, allowed, ?_⟩⟩
          exact congrArg Prod.snd effect

end Calls

end NginxFleet
