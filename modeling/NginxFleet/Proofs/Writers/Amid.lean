/-
Module: NginxFleet.Proofs.Writers.Amid
Layer: Proofs
Purpose: A session among other writers. Between any two requests of the session, others write and
  remove whatever objects they like, any number of times. What is known of a session and of the server
  at its beginning, and kept by every request that the session sends and by all that others write,
  is known for good.
Main exports: Amid, playAmid, Amid.play, Amid.sends, Amid.invariant
-/
import NginxFleet.Proofs.Overlap.Interleaving
import NginxFleet.Proofs.Server.Optimistic

namespace NginxFleet

/-- What is reached when a session goes on while others write, with the requests of the session that
    were executed and their outcomes. -/
inductive Amid {α : Type} (start : VersionedStore) (session : Session α) :
    List (Request × Outcome) → VersionedStore → Session α → Prop where
  | start : Amid start session [] start session
  | written {executed : List (Request × Outcome)} {state next : VersionedStore}
      {current : Session α} (reached : Amid start session executed state current)
      (rewritten : state.Rewritten next) : Amid start session executed next current
  | noted {executed : List (Request × Outcome)} {state : VersionedStore} {entry : LogEntry}
      {rest : Session α} (reached : Amid start session executed state (.note entry rest)) :
      Amid start session executed state rest
  | sent {executed : List (Request × Outcome)} {state next : VersionedStore} {request : Request}
      {resume : Outcome → Session α} {outcome : Outcome}
      (reached : Amid start session executed state (.send request resume))
      (executes : state.Executes request outcome next) :
      Amid start session (executed ++ [(request, outcome)]) next (resume outcome)

/-!
### Playing

Another writer may store an object before each request.
-/

/-- What another writer stores, if it does: the members of an object, under a key. -/
abbrev Edit := Option (ObjectKey × List (String × Json))

/-- The server after an edit. -/
def VersionedStore.edited (state : VersionedStore) : Edit → VersionedStore
  | some (key, members) => state.edit key members
  | none => state

theorem VersionedStore.rewritten_edited (state : VersionedStore) (edit : Edit) :
    state.Rewritten (state.edited edit) := by
  cases edit with
  | none => exact .refl state
  | some written => exact state.rewritten_edit written.1 written.2

/-- Goes on with a session on a server that executes its requests, one for each edit, and each after
    its edit. -/
def playAmid {α : Type} : Session α → List Edit → VersionedStore →
    List (Request × Outcome) × VersionedStore × Session α
  | .note _ rest, edits, state => playAmid rest edits state
  | .send request resume, edit :: edits, state =>
    let (outcome, next) := (state.edited edit).execute request
    let (executed, final, current) := playAmid (resume outcome) edits next
    ((request, outcome) :: executed, final, current)
  | current, _, state => ([], state, current)

/-- What is played is reached. -/
theorem Amid.play {α : Type} {start state : VersionedStore} {session current : Session α}
    {executed : List (Request × Outcome)} (reached : Amid start session executed state current)
    (edits : List Edit) :
    Amid start session (executed ++ (playAmid current edits state).1)
      (playAmid current edits state).2.1 (playAmid current edits state).2.2 := by
  induction current generalizing executed state edits with
  | done result =>
      simp only [playAmid, List.append_nil]
      exact reached
  | note entry rest ih => exact ih reached.noted edits
  | send request resume ih =>
      cases edits with
      | nil =>
          simp only [playAmid, List.append_nil]
          exact reached
      | cons edit edits =>
          have edited := reached.written (state.rewritten_edited edit)
          have sent := edited.sent (VersionedStore.executes_execute _ request)
          have later := ih _ sent edits
          rw [List.append_assoc] at later
          exact later

/-- What is played ends where the session has ended or sends its next request. -/
theorem playAmid_awaiting {α : Type} {current : Session α} {edits : List Edit}
    {state : VersionedStore} {request : Request} {resume : Outcome → Session α}
    (awaits : (playAmid current edits state).2.2.awaiting? = some (request, resume)) :
    (playAmid current edits state).2.2 = .send request resume := by
  induction current generalizing edits state with
  | done result => cases awaits
  | note entry rest ih => exact ih awaits
  | send sent continued ih =>
      cases edits with
      | nil =>
          cases awaits
          rfl
      | cons edit edits => exact ih _ awaits

/-- A session that was played up to its next request is reached where it sends it. -/
theorem Amid.sends {α : Type} {start : VersionedStore} {session : Session α} {edits : List Edit}
    {request : Request} {resume : Outcome → Session α}
    (awaits : (playAmid session edits start).2.2.awaiting? = some (request, resume)) :
    Amid start session (playAmid session edits start).1 (playAmid session edits start).2.1
      (.send request resume) := by
  have played := (Amid.start : Amid start session [] start session).play edits
  rw [List.nil_append, playAmid_awaiting awaits] at played
  exact played

/-!
### The operator's sessions
-/

section Invariant

variable {nginx : Nginx} {start state : VersionedStore}
  {session current : Session (Except OperatorError Unit)} {executed : List (Request × Outcome)}

/-- What holds of the executed requests, the server and the point at which a session stands when it
    begins holds for good, if it is kept by whatever others write and by every call. -/
theorem Amid.invariant (admissible : nginx.Admissible)
    {holds : List (Request × Outcome) → VersionedStore → Point → Prop} {point : Point}
    (here : session.At Call.any nginx point) (begins : holds [] start point)
    (written : ∀ {executed state next point}, holds executed state point →
      state.Rewritten next → holds executed next point)
    (called : ∀ {executed state next call outcome}, holds executed state (.pending call) →
      state.Executes (call.sent nginx) outcome next →
      holds (executed ++ [(call.sent nginx, outcome)]) next
        (call.after Call.any nginx (call.read outcome)))
    (reached : Amid start session executed state current) :
    ∃ reachedPoint, current.At Call.any nginx reachedPoint ∧ holds executed state reachedPoint := by
  induction reached with
  | start => exact ⟨point, here, begins⟩
  | written reached rewritten ih =>
      obtain ⟨point, stands, known⟩ := ih
      exact ⟨point, stands, written known rewritten⟩
  | noted reached ih =>
      obtain ⟨point, stands, known⟩ := ih
      exact ⟨point, stands, known⟩
  | sent reached executes ih =>
      obtain ⟨point, stands, known⟩ := ih
      cases point with
      | ended result => exact stands.elim
      | pending call =>
          obtain ⟨built, leads⟩ := stands
          rw [Call.request_eq_sent admissible] at built
          cases built
          exact ⟨_, leads _, called known executes⟩

end Invariant

end NginxFleet
