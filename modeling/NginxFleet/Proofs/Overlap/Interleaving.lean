/-
Module: NginxFleet.Proofs.Overlap.Interleaving
Layer: Proofs
Purpose: Several sessions against one server, with their requests in any order. A step lets one session
  that waits to send a request do so; the server executes it as a whole and the session goes on as the
  outcome says. A session that is at a point of the table of calls sends the request of its call and
  is then at the point after it, whatever the other sessions did in between.
Main exports: Session.awaiting?, Session.result?, Overlap, Overlap.Reached, Session.At.awaiting,
  Session.At.result
-/
import NginxFleet.Proofs.Protocol.Sent
import NginxFleet.Proofs.Protocol.Walk

namespace NginxFleet

namespace Session

variable {α : Type}

/-- The request that a session waits to send, and how it goes on. Log lines hold no session up. -/
def awaiting? : Session α → Option (Request × (Outcome → Session α))
  | .done _ => none
  | .note _ rest => rest.awaiting?
  | .send request resume => some (request, resume)

/-- The result of a session that has ended. -/
def result? : Session α → Option α
  | .done result => some result
  | .note _ rest => rest.result?
  | .send _ _ => none

/-- A session has ended unless it waits to send a request. -/
theorem result?_isSome_iff (session : Session α) :
    session.result?.isSome ↔ session.awaiting? = none := by
  induction session with
  | done result => simp [result?, awaiting?]
  | note entry rest ih => exact ih
  | send request resume => simp [result?, awaiting?]

end Session

/-- A server and the sessions that use it. -/
structure Overlap (σ α : Type) (count : Nat) where
  server : σ
  runs : Fin count → Session α

namespace Overlap

variable {σ α : Type} {count : Nat}

/-- What is reached when one session after the other sends its next request, in any order, with the
    requests that were executed and their outcomes. -/
inductive Reached (serves : σ → Request → Outcome → σ → Prop) (start : Overlap σ α count) :
    List (Request × Outcome) → Overlap σ α count → Prop where
  | start : Reached serves start [] start
  | step {executed : List (Request × Outcome)} {state : Overlap σ α count} {server : σ}
      {run : Fin count} {request : Request} {resume : Outcome → Session α} {outcome : Outcome}
      (reached : Reached serves start executed state)
      (awaits : (state.runs run).awaiting? = some (request, resume))
      (served : serves state.server request outcome server) :
      Reached serves start (executed ++ [(request, outcome)]) {
        server, runs := Function.update state.runs run (resume outcome) }

section Play

variable (answer : σ → Request → Outcome × σ)

/-- One session sends its next request, if it waits to send one. -/
def advance (state : Overlap σ α count) (run : Fin count) :
    List (Request × Outcome) × Overlap σ α count :=
  match (state.runs run).awaiting? with
  | none => ([], state)
  | some (request, resume) =>
    let (outcome, server) := answer state.server request
    ([(request, outcome)], { server, runs := Function.update state.runs run (resume outcome) })

/-- The sessions send their requests in the order of a schedule. -/
def play (state : Overlap σ α count) :
    List (Fin count) → List (Request × Outcome) × Overlap σ α count
  | [] => ([], state)
  | run :: later =>
    let (first, next) := state.advance answer run
    let (rest, final) := next.play later
    (first ++ rest, final)

variable {answer}

/-- What a schedule leads to is reached, on a server that executes requests as a relation says. -/
theorem Reached.play {serves : σ → Request → Outcome → σ → Prop} {start state : Overlap σ α count}
    {executed : List (Request × Outcome)}
    (follows : ∀ server request,
      serves server request (answer server request).1 (answer server request).2)
    (reached : Reached serves start executed state) (schedule : List (Fin count)) :
    Reached serves start (executed ++ (state.play answer schedule).1)
      (state.play answer schedule).2 := by
  induction schedule generalizing executed state with
  | nil =>
      rw [Overlap.play, List.append_nil]
      exact reached
  | cons run later ih =>
      rw [Overlap.play]
      dsimp only
      rw [← List.append_assoc]
      apply ih
      unfold advance
      cases awaits : (state.runs run).awaiting? with
      | none =>
          rw [List.append_nil]
          exact reached
      | some sent => exact reached.step awaits (follows state.server sent.1)

end Play

end Overlap

namespace Session.At

variable {scope : Call → Bool} {nginx : Nginx} {point : Point}
  {session : Session (Except OperatorError Unit)}

/-- A session that waits to send a request is before a call, and sends the request of this call. -/
theorem awaiting (admissible : nginx.Admissible) (here : session.At scope nginx point)
    {request : Request} {resume : Outcome → Session (Except OperatorError Unit)}
    (awaits : session.awaiting? = some (request, resume)) :
    ∃ call, point = .pending call ∧ request = call.sent nginx ∧
      ∀ outcome, (resume outcome).At scope nginx (call.after scope nginx (call.read outcome)) := by
  induction session with
  | done result => cases awaits
  | note entry rest ih => exact ih here awaits
  | send sent continued =>
      cases awaits
      cases point with
      | pending call =>
          obtain ⟨built, leads⟩ := here
          rw [Call.request_eq_sent admissible] at built
          cases built
          exact ⟨call, rfl, rfl, leads⟩
      | ended result => exact here.elim

/-- A session that has ended is at its result. -/
theorem result (admissible : nginx.Admissible) (here : session.At scope nginx point)
    {result : Except OperatorError Unit} (ended : session.result? = some result) :
    point = .ended result := by
  induction session with
  | done value =>
      cases ended
      cases point with
      | pending call =>
          obtain ⟨fault, unbuilt, -⟩ := here
          rw [Call.request_eq_sent admissible] at unbuilt
          cases unbuilt
      | ended expected => exact congrArg Point.ended here.symm
  | note entry rest ih => exact ih here ended
  | send sent continued => cases ended

end Session.At

end NginxFleet
