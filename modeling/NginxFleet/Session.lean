/-
Module: NginxFleet.Session
Layer: Session
Purpose: What the operator does, as a value: it ends with a result, or writes a log line and goes on,
  or sends a request and goes on as the outcome says. A session says nothing of the server; it is
  run against one that answers each request out of a state, and every answer it could give is a
  branch of the session.
Main exports: Session, Session.bind, Session.within, Session.run, Transcript, TimedRequest
-/
import NginxFleet.Http.Message
import NginxFleet.Log

namespace NginxFleet

/-- A sequence of requests and log lines that ends with a result. -/
inductive Session (α : Type) where
  | done (result : α)
  | note (entry : LogEntry) (rest : Session α)
  | send (request : Request) (resume : Outcome → Session α)

namespace Session

variable {α β σ : Type}

/-- One session, and then another that depends on its result. -/
def bind (session : Session α) (next : α → Session β) : Session β :=
  match session with
  | .done result => next result
  | .note entry rest => .note entry (rest.bind next)
  | .send request resume => .send request fun outcome => (resume outcome).bind next

instance : Monad Session where
  pure := .done
  bind := bind

@[simp] theorem pure_eq (result : α) : (pure result : Session α) = .done result := rfl

@[simp] theorem bind_eq (session : Session α) (next : α → Session β) :
    (session >>= next) = session.bind next := rfl

@[simp] theorem done_bind (result : α) (next : α → Session β) :
    (Session.done result).bind next = next result := rfl

@[simp] theorem note_bind (entry : LogEntry) (rest : Session α) (next : α → Session β) :
    (Session.note entry rest).bind next = .note entry (rest.bind next) := rfl

@[simp] theorem send_bind (request : Request) (resume : Outcome → Session α)
    (next : α → Session β) :
    (Session.send request resume).bind next =
      .send request fun outcome => (resume outcome).bind next := rfl

/-- A session followed by nothing is the session. -/
@[simp] theorem bind_done (session : Session α) : session.bind .done = session := by
  induction session with
  | done result => rfl
  | note entry rest ih => simp [ih]
  | send request resume ih => simp [ih]

/-- Following sessions may be grouped in either way. -/
theorem bind_assoc {γ : Type} (session : Session α) (first : α → Session β)
    (second : β → Session γ) :
    (session.bind first).bind second = session.bind fun result => (first result).bind second := by
  induction session with
  | done result => rfl
  | note entry rest ih => simp [ih]
  | send request resume ih => simp [ih]

/-- Writes a log line. -/
def log (level : LogLevel) (message : String) : Session Unit :=
  .note { level, message } (.done ())

/-- The session with all its log lines inside an activity. -/
def within (activity : Activity) : Session α → Session α
  | .done result => .done result
  | .note entry rest => .note (entry.inside activity) (rest.within activity)
  | .send request resume => .send request fun outcome => (resume outcome).within activity

end Session

/-- What a run of a session leaves: the result, the requests with their outcomes and the log lines,
    each in order, and the state of the server. -/
structure Transcript (α σ : Type) where
  result : α
  exchanges : List (Request × Outcome)
  entries : List LogEntry
  state : σ

/-- The requests that were sent, in order. -/
def Transcript.requests {α σ : Type} (transcript : Transcript α σ) : List Request :=
  transcript.exchanges.map Prod.fst

/-- A request and the second at which it was sent. -/
structure TimedRequest where
  second : Nat
  request : Request
deriving DecidableEq, Repr, Inhabited

/-- The requests of a run that takes no time. -/
def Transcript.timedRequests {α σ : Type} (transcript : Transcript α σ) (second : Nat) :
    List TimedRequest :=
  transcript.requests.map fun request => ⟨second, request⟩

namespace Session

variable {α β σ : Type}

/-- Runs a session against a server that answers out of a state. -/
def run (answer : σ → Request → Outcome × σ) : Session α → σ → Transcript α σ
  | .done result, state => ⟨result, [], [], state⟩
  | .note entry rest, state =>
    let later := rest.run answer state
    { later with entries := entry :: later.entries }
  | .send request resume, state =>
    let (outcome, next) := answer state request
    let later := (resume outcome).run answer next
    { later with exchanges := (request, outcome) :: later.exchanges }

@[simp] theorem run_done (answer : σ → Request → Outcome × σ) (result : α) (state : σ) :
    (Session.done result).run answer state = ⟨result, [], [], state⟩ := rfl

/-- A run of two sessions is a run of the first and then one of the second from where it ended. -/
theorem run_bind (answer : σ → Request → Outcome × σ) (session : Session α)
    (next : α → Session β) (state : σ) :
    (session.bind next).run answer state =
      let first := session.run answer state
      let second := (next first.result).run answer first.state
      ⟨second.result, first.exchanges ++ second.exchanges, first.entries ++ second.entries,
        second.state⟩ := by
  induction session generalizing state with
  | done result => simp
  | note entry rest ih => simp [run, ih]
  | send request resume ih => simp [run, ih]

/-- Naming an activity changes the log only. -/
theorem run_within (answer : σ → Request → Outcome × σ) (activity : Activity)
    (session : Session α) (state : σ) :
    (session.within activity).run answer state =
      let plain := session.run answer state
      { plain with entries := plain.entries.map (LogEntry.inside activity) } := by
  induction session generalizing state with
  | done result => simp [within]
  | note entry rest ih => simp [run, within, ih]
  | send request resume ih => simp [run, within, ih]

end Session

end NginxFleet
