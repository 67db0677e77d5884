/-
Module: NginxFleet.Proofs.Protocol.Walk
Layer: Proofs
Purpose: The operator's sessions walk through the table of calls. A session is at a point of the table
  if, log lines aside, it sends what the call of that point sends and is, after every outcome, at the
  point that the table names next. The sessions for the deployment, for both dependents, for the
  status and for a whole notification are at their points by construction, call by call. From this a
  run against any server is a walk, which gives the request protocol of a notification.
Main exports: Point, Session.At, reconcileDeployment_at, reconcileDependents_at, refreshStatus_at,
  dispatch_at, Session.At.run_from, dispatch_walks, reconcileDeployment_walks,
  refreshStatus_walks, dispatch_follows_protocol
-/
import NginxFleet.Proofs.Protocol.Call

namespace NginxFleet

/-- Where handling an instance stands: a call is to be made, or there is a result. -/
inductive Point where
  | pending (call : Call)
  | ended (result : Except OperatorError Unit)

/-- The point at which a call comes next, if there is one that belongs to the work at hand. -/
def Point.before (scope : Call → Bool) (next? : Option Call) : Point :=
  match next?.filter scope with
  | some call => .pending call
  | none => .ended (.ok ())

/-- The point after a call. -/
def Call.after (scope : Call → Bool) (nginx : Nginx) (call : Call)
    (result : Except ClientError Reply) : Point :=
  match call.failure? result with
  | some error => .ended (.error error)
  | none => .before scope (call.followUp? nginx result)

/-- A call that is followed by none is the last one, whether it fails or not. -/
theorem Call.after_last (scope : Call → Bool) (nginx : Nginx) (call : Call)
    (result : Except ClientError Reply)
    (last : (call.followUp? nginx result).filter scope = none) :
    ∃ ended, call.after scope nginx result = .ended ended := by
  unfold after
  cases call.failure? result with
  | some error => exact ⟨.error error, rfl⟩
  | none =>
      rw [Point.before, last]
      exact ⟨.ok (), rfl⟩

/-- A session is at a point of the table. A call that cannot be built ends the session. -/
def Session.At (scope : Call → Bool) (nginx : Nginx) :
    Session (Except OperatorError Unit) → Point → Prop
  | .done result, .ended expected => result = expected
  | .done result, .pending call =>
      ∃ fault, call.request nginx = .error fault ∧ result = .error (call.failure fault)
  | .note _ rest, point => rest.At scope nginx point
  | .send request resume, .pending call =>
      call.request nginx = .ok request ∧
        ∀ outcome, (resume outcome).At scope nginx (call.after scope nginx (call.read outcome))
  | .send _ _, .ended _ => False

namespace Session

variable {α : Type} {scope : Call → Bool} {nginx : Nginx} {point : Point}

/-- Writing a log line does not move a session. -/
theorem at_log_bind {level : LogLevel} {message : String}
    {next : Unit → Session (Except OperatorError Unit)} :
    ((log level message).bind next).At scope nginx point ↔ (next ()).At scope nginx point :=
  Iff.rfl

/-- Naming an activity does not move what follows a session. -/
theorem at_within_bind {activity : Activity} {session : Session α}
    {next : α → Session (Except OperatorError Unit)} :
    ((session.within activity).bind next).At scope nginx point ↔
      (session.bind next).At scope nginx point := by
  induction session generalizing point with
  | done result => rfl
  | note entry rest ih => exact ih
  | send request resume ih =>
      cases point with
      | pending call =>
          simp only [within, send_bind, At]
          exact and_congr_right fun _ => forall_congr' fun outcome => ih outcome
      | ended result => rfl

/-- Naming an activity does not move a session. -/
theorem at_within {activity : Activity} {session : Session (Except OperatorError Unit)} :
    (session.within activity).At scope nginx point ↔ session.At scope nginx point := by
  rw [← bind_done (session.within activity), at_within_bind, bind_done]

/-- A session with the error of a call that cannot be built is at this call. -/
theorem at_pending_of_unbuilt {call : Call} {fault : ClientError}
    {session : Session (Except OperatorError Unit)}
    (unbuilt : call.request nginx = .error fault)
    (ended : session.At scope nginx (.ended (.error (call.failure fault)))) :
    session.At scope nginx (.pending call) := by
  induction session with
  | done result => exact ⟨fault, unbuilt, ended⟩
  | note entry rest ih => exact ih ended
  | send request resume ih => exact False.elim ended

end Session

/-!
### One call

The client's functions send what the table says. A fault in building a request is never one that a
create tolerates, so the session ends with it.
-/

/-- A create tolerates that its object is already there, and nothing else. -/
theorem Call.tolerates_of_post (call : Call) (creates : call.method = .post) (cause : ClientError) :
    call.tolerates cause = cause.isAlreadyExists := by
  cases call with
  | createDeployment | createService =>
      cases cause <;> simp [tolerates, ClientError.isAlreadyExists, Bool.beq_eq_decide_eq]
  | fetchDeployment | replaceDeployment | listPods | recordPods => cases creates

/-- What stands behind the path of a collection, with the two texts on either side of the namespace. -/
theorem Collection.pathOf_append {root plural namespaceName tail front back : String}
    (before : root ++ "/namespaces/" = front) (behind : "/" ++ plural ++ tail = back) :
    pathOf root plural (some namespaceName) ++ tail = front ++ namespaceName ++ back := by
  subst before behind
  simp only [pathOf, String.append_assoc]

section OneCall

variable {α : Type} {scope : Call → Bool} {nginx : Nginx} {read : Json → Option α}
  {wrap : α → Reply} {next : Except ClientError α → Session (Except OperatorError Unit)}
  {method : Method} {text : String} {body : Option Json}

/-- A call to a target, followed by a session that is where the call's result leads. -/
theorem call_bind_at (entry : Call) (named : entry.objectName? nginx ≠ some "")
    (methods : method = entry.method) (texts : text = entry.targetText nginx)
    (bodies : body = entry.body nginx)
    (reads : ∀ outcome, entry.read outcome = (readAnswer read outcome).map wrap)
    (leads : ∀ result : Except ClientError α,
      (next result).At scope nginx (entry.after scope nginx (result.map wrap))) :
    ((call method text body read).bind next).At scope nginx (.pending entry) := by
  subst methods texts bodies
  unfold call
  cases target : Target.ofText (entry.targetText nginx) with
  | error fault =>
      have unbuilt : entry.request nginx = .error (.badTarget fault) := by
        simp [Call.request, named, target]
      apply Session.at_pending_of_unbuilt unbuilt
      have ended := leads (.error (.badTarget fault))
      simpa [Call.after, Call.failure?_of_unbuilt unbuilt, Except.map] using ended
  | ok target' =>
      constructor
      · simp [Call.request, named, target]
      · intro outcome
        rw [reads]
        exact leads (readAnswer read outcome)

/-- The same for a call that needs the name of an object. -/
theorem named_call_bind_at (entry : Call) {name : String}
    (named : entry.objectName? nginx = some name)
    (methods : method = entry.method) (texts : text = entry.targetText nginx)
    (bodies : body = entry.body nginx)
    (reads : ∀ outcome, entry.read outcome = (readAnswer read outcome).map wrap)
    (leads : ∀ result : Except ClientError α,
      (next result).At scope nginx (entry.after scope nginx (result.map wrap))) :
    ((if name = "" then .done (.error .emptyName) else call method text body read).bind next).At
      scope nginx (.pending entry) := by
  by_cases empty : name = ""
  · rw [if_pos empty]
    have unbuilt : entry.request nginx = .error .emptyName := by
      simp [Call.request, named, empty]
    apply Session.at_pending_of_unbuilt unbuilt
    have ended := leads (.error .emptyName)
    simpa [Call.after, Call.failure?_of_unbuilt unbuilt, Except.map] using ended
  · rw [if_neg empty]
    exact call_bind_at entry (by simp [named, empty]) methods texts bodies reads leads

end OneCall

/-!
### The steps of the reconciliation

Each step is taken together with what follows it: a session that ends with the error of the step, or
goes on where the table says. The steps need not know what that is.
-/

section Steps

variable {scope : Call → Bool} {nginx : Nginx}
  {next : Except OperatorError Unit → Session (Except OperatorError Unit)}

theorem Point.before_of_inScope {call : Call} (inScope : scope call) :
    Point.before scope (some call) = .pending call := by
  simp [Point.before, Option.filter, inScope]

theorem replaceDeployment_bind_at {repaired : Deployment}
    (succeeds : (next (.ok ())).At scope nginx (.before scope (some .createService)))
    (fails : ∀ error, (next (.error error)).At scope nginx (.ended (.error error))) :
    ((replaceDeployment nginx repaired).bind next).At scope nginx
      (.pending (.replaceDeployment repaired)) := by
  unfold replaceDeployment
  rw [Session.bind_eq, Session.bind_assoc]
  have text : Collection.deployments.path nginx.namespaceName ++ "/" ++ nginx.deploymentName ++
      "?" = (Call.replaceDeployment repaired).targetText nginx :=
    congrArg (· ++ nginx.deploymentName ++ "?") (Collection.pathOf_append rfl rfl)
  apply named_call_bind_at (.replaceDeployment repaired) rfl rfl text rfl (fun _ => rfl)
  intro result
  cases result with
  | ok value => exact succeeds
  | error cause => exact fails _

theorem repairDeployment_bind_at (inScope : ∀ call : Call, call.aboutDeployment → scope call)
    (succeeds : (next (.ok ())).At scope nginx (.before scope (some .createService)))
    (fails : ∀ error, (next (.error error)).At scope nginx (.ended (.error error))) :
    ((repairDeployment nginx).bind next).At scope nginx (.pending .fetchDeployment) := by
  unfold repairDeployment
  rw [Session.bind_eq, Session.bind_assoc]
  have text : Collection.deployments.path nginx.namespaceName ++ "/" ++ nginx.deploymentName =
      Call.fetchDeployment.targetText nginx :=
    congrArg (· ++ nginx.deploymentName) (Collection.pathOf_append rfl rfl)
  apply named_call_bind_at .fetchDeployment rfl rfl text rfl (fun _ => rfl)
  intro result
  cases result with
  | error cause => exact fails _
  | ok existing =>
      simp only [Call.after, Call.failure?, Call.followUp?, Except.map]
      cases repair : existing.repair? nginx.desiredDeployment with
      | none => exact succeeds
      | some repaired =>
          rw [Point.before_of_inScope (inScope (.replaceDeployment repaired) rfl)]
          exact replaceDeployment_bind_at succeeds fails

theorem ensureDeployment_bind_at (inScope : ∀ call : Call, call.aboutDeployment → scope call)
    (succeeds : (next (.ok ())).At scope nginx (.before scope (some .createService)))
    (fails : ∀ error, (next (.error error)).At scope nginx (.ended (.error error))) :
    ((ensureDeployment nginx).bind next).At scope nginx (.pending .createDeployment) := by
  unfold ensureDeployment
  rw [Session.bind_eq, Session.bind_assoc]
  have text : Collection.deployments.path nginx.namespaceName ++ "?" =
      Call.createDeployment.targetText nginx :=
    Collection.pathOf_append rfl rfl
  refine call_bind_at .createDeployment (by simp [Call.objectName?]) rfl text rfl
    (fun _ => rfl) ?_
  intro result
  cases result with
  | ok value => exact succeeds
  | error cause =>
      simp only [Call.after, Call.failure?, Call.tolerates_of_post .createDeployment rfl, Except.map,
        Call.followUp?]
      cases cause.isAlreadyExists with
      | true =>
          rw [Point.before_of_inScope (inScope .fetchDeployment rfl)]
          exact repairDeployment_bind_at inScope succeeds fails
      | false => exact fails _

theorem ensureService_bind_at
    (succeeds : (next (.ok ())).At scope nginx (.before scope (some .listPods)))
    (fails : ∀ error, (next (.error error)).At scope nginx (.ended (.error error))) :
    ((ensureService nginx).bind next).At scope nginx (.pending .createService) := by
  unfold ensureService
  rw [Session.bind_eq, Session.bind_assoc]
  have text : Collection.services.path nginx.namespaceName ++ "?" =
      Call.createService.targetText nginx :=
    Collection.pathOf_append rfl rfl
  apply call_bind_at .createService (by simp [Call.objectName?]) rfl text rfl (fun _ => rfl)
  intro result
  cases result with
  | ok value => exact succeeds
  | error cause =>
      simp only [Call.after, Call.failure?, Call.tolerates_of_post .createService rfl, Except.map,
        Call.followUp?]
      cases cause.isAlreadyExists with
      | true => exact succeeds
      | false => exact fails _

theorem recordPods_at {pods : List PodEntry} :
    (recordPods nginx pods).At scope nginx (.pending (.recordPods pods)) := by
  unfold recordPods
  rw [Session.bind_eq]
  have text : Collection.nginxes.path nginx.namespaceName ++ "/" ++ nginx.name ++ "/status?" =
      (Call.recordPods pods).targetText nginx :=
    congrArg (· ++ nginx.name ++ "/status?") (Collection.pathOf_append rfl rfl)
  apply named_call_bind_at (.recordPods pods) rfl rfl text rfl (fun _ => rfl)
  intro result
  cases result with
  | ok value => rfl
  | error cause => rfl

theorem observeStatus_at (inScope : ∀ pods, scope (.recordPods pods)) :
    (observeStatus nginx).At scope nginx (.pending .listPods) := by
  unfold observeStatus
  rw [Session.bind_eq]
  have text : Collection.pathOf Collection.podsRoot "pods" (some nginx.namespaceName) ++
      "?&labelSelector=" ++ Text.formEncode (labelSelector nginx.name) =
      Call.listPods.targetText nginx :=
    congrArg (· ++ Text.formEncode (labelSelector nginx.name)) (Collection.pathOf_append rfl rfl)
  apply call_bind_at .listPods (by simp [Call.objectName?]) rfl text rfl (fun _ => rfl)
  intro result
  cases result with
  | error cause => rfl
  | ok pods =>
      simp only [Call.after, Call.failure?, Call.followUp?, Except.map]
      cases changed : podsChanged (observedPods pods) nginx.storedPods with
      | true =>
          rw [if_pos rfl, if_pos rfl, Point.before_of_inScope (inScope _)]
          exact recordPods_at
      | false => rfl

end Steps

/-!
### Where the operator's sessions are

What follows is their form: where each of the operator's sessions stands when it begins.
-/

section Sessions

variable {scope : Call → Bool} {nginx : Nginx}

theorem reconcileDeployment_at :
    (reconcileDeployment nginx).At Call.aboutDeployment nginx (.pending .createDeployment) := by
  unfold reconcileDeployment
  rw [Session.at_within, ← Session.bind_done (ensureDeployment nginx)]
  exact ensureDeployment_bind_at (fun _ inScope => inScope) rfl (fun _ => rfl)

theorem reconcileDependents_bind_at
    {next : Except OperatorError Unit → Session (Except OperatorError Unit)}
    (inScope : ∀ call : Call, call.aboutDependents → scope call)
    (succeeds : (next (.ok ())).At scope nginx (.before scope (some .listPods)))
    (fails : ∀ error, (next (.error error)).At scope nginx (.ended (.error error))) :
    ((reconcileDependents nginx).bind next).At scope nginx (.pending .createDeployment) := by
  unfold reconcileDependents onSuccess
  rw [Session.bind_assoc, reconcileDeployment, Session.at_within_bind]
  refine ensureDeployment_bind_at ?_ ?_ ?_
  · intro call about
    apply inScope call
    cases call <;> simp_all [Call.aboutDeployment, Call.aboutDependents]
  · rw [Point.before_of_inScope (inScope .createService rfl)]
    show ((reconcileService nginx).bind next).At scope nginx (.pending .createService)
    rw [reconcileService, Session.at_within_bind]
    exact ensureService_bind_at succeeds fails
  · intro error
    exact fails error

theorem reconcileDependents_at :
    (reconcileDependents nginx).At Call.aboutDependents nginx (.pending .createDeployment) := by
  rw [← Session.bind_done (reconcileDependents nginx)]
  exact reconcileDependents_bind_at (fun _ inScope => inScope) rfl (fun _ => rfl)

theorem refreshStatus_at (inScope : ∀ pods, scope (.recordPods pods)) :
    (refreshStatus nginx false).At scope nginx (.pending .listPods) := by
  unfold refreshStatus
  rw [Session.at_within]
  exact observeStatus_at inScope

theorem dispatch_at :
    (dispatch { object := .nginx nginx }).At Call.any nginx (.pending .createDeployment) := by
  show (handleNginx nginx false).At Call.any nginx _
  unfold handleNginx
  rw [Session.at_within, if_neg Bool.false_ne_true, Session.bind_eq, Session.at_log_bind]
  unfold onSuccess
  refine reconcileDependents_bind_at (fun _ _ => rfl) ?_ (fun _ => rfl)
  exact refreshStatus_at (fun _ => rfl)

end Sessions

/-!
### Runs

By induction on the session: the point where it stands says which call is next, the server answers
it, and the session goes on at the point after it.
-/

section Runs

variable {σ : Type} {answer : σ → Request → Outcome × σ} {scope : Call → Bool} {nginx : Nginx}

/-- What a run leaves that began at a point. -/
def Transcript.From (answer : σ → Request → Outcome × σ) (scope : Call → Bool) (nginx : Nginx)
    (state : σ) (transcript : Transcript (Except OperatorError Unit) σ) : Point → Prop
  | .pending call =>
    ∃ records,
      Handles (Answers answer) nginx scope state call records transcript.result
        transcript.state ∧
      transcript.exchanges = records.filterMap CallRecord.exchange?
  | .ended result =>
    transcript.result = result ∧ transcript.exchanges = [] ∧ transcript.state = state

/-- A call that was answered, and then a run from the point after it. -/
theorem Transcript.From.after_call {call : Call} {exchange : Request × Outcome}
    {result : Except ClientError Reply} {state next : σ}
    {later : Transcript (Except OperatorError Unit) σ}
    (performed : Performs (Answers answer) nginx state ⟨call, some exchange, result⟩ next)
    (from_next : later.From answer scope nginx next (call.after scope nginx result)) :
    ({ later with exchanges := exchange :: later.exchanges } : Transcript _ _).From answer scope
      nginx state (.pending call) := by
  unfold Call.after at from_next
  cases failure : call.failure? result with
  | some error =>
      rw [failure] at from_next
      obtain ⟨ended, exchanges, final⟩ := from_next
      refine ⟨[⟨call, some exchange, result⟩], ?_, by simp [exchanges]⟩
      rw [ended, final]
      exact .failed performed failure
  | none =>
      simp only [failure, Point.before] at from_next
      cases more : (call.followUp? nginx result).filter scope with
      | none =>
          rw [more] at from_next
          obtain ⟨ended, exchanges, final⟩ := from_next
          refine ⟨[⟨call, some exchange, result⟩], ?_, by simp [exchanges]⟩
          rw [ended, final]
          exact .ended performed failure more
      | some following =>
          rw [more] at from_next
          obtain ⟨records, walk, exchanges⟩ := from_next
          refine ⟨⟨call, some exchange, result⟩ :: records, ?_, by simp [exchanges]⟩
          exact .continued performed failure more walk

/-- A run that begins at a call is a walk from this call, whatever the server answers. -/
theorem Session.At.run_from {session : Session (Except OperatorError Unit)} {point : Point}
    (here : session.At scope nginx point) (state : σ) :
    (session.run answer state).From answer scope nginx state point := by
  induction session generalizing point state with
  | done result =>
      cases point with
      | ended expected => exact ⟨here, rfl, rfl⟩
      | pending call =>
          obtain ⟨fault, unbuilt, rfl⟩ := here
          refine ⟨[⟨call, none, .error fault⟩], ?_, rfl⟩
          exact .failed (.unbuilt unbuilt) (Call.failure?_of_unbuilt unbuilt)
  | note entry rest ih =>
      have later := ih here state
      cases point with
      | ended expected => exact later
      | pending call => exact later
  | send request resume ih =>
      cases point with
      | ended expected => exact here.elim
      | pending call =>
          obtain ⟨built, leads⟩ := here
          have performed : Performs (Answers answer) nginx state
              ⟨call, some (request, (answer state request).1),
                call.read (answer state request).1⟩ (answer state request).2 :=
            .sent built rfl
          exact .after_call performed (ih _ (leads _) _)

/-- Handling an instance that is there is a walk from the first call. -/
theorem dispatch_walks (answer : σ → Request → Outcome × σ) (nginx : Nginx) (state : σ) :
    let transcript := (dispatch { object := .nginx nginx }).run answer state
    ∃ records,
      Handles (Answers answer) nginx Call.any state .createDeployment records transcript.result
        transcript.state ∧
      transcript.exchanges = records.filterMap CallRecord.exchange? :=
  dispatch_at.run_from state

/-- Bringing the deployment in line is the part of such a walk that is about the deployment. -/
theorem reconcileDeployment_walks (answer : σ → Request → Outcome × σ) (nginx : Nginx)
    (state : σ) :
    let transcript := (reconcileDeployment nginx).run answer state
    ∃ records,
      Handles (Answers answer) nginx Call.aboutDeployment state .createDeployment records
        transcript.result transcript.state ∧
      transcript.exchanges = records.filterMap CallRecord.exchange? :=
  reconcileDeployment_at.run_from state

/-- Bringing the status in line is the part that begins with the list of the pods. -/
theorem refreshStatus_walks (answer : σ → Request → Outcome × σ) (nginx : Nginx) (state : σ) :
    let transcript := (refreshStatus nginx false).run answer state
    ∃ records,
      Handles (Answers answer) nginx Call.any state .listPods records transcript.result
        transcript.state ∧
      transcript.exchanges = records.filterMap CallRecord.exchange? :=
  (refreshStatus_at fun _ => rfl).run_from state

end Runs

/-!
### The request protocol

A notification for an instance that is there leads to a walk through all calls, any other to none.
-/

/-- The instance that a notification asks to bring in line. -/
def Notification.instance? (notification : Notification) : Option Nginx :=
  match notification.object, notification.deleted with
  | .nginx nginx, false => some nginx
  | _, _ => none

/-- Whatever the server answers, the requests of a notification are those of a walk through the table
    of calls: it makes one call after another as their results say, up to the first that failed, and
    a call for which nothing was sent is one that failed. The walk ends well exactly if no call
    failed, and else with the error of the last one. A notification that asks for nothing sends
    nothing. -/
theorem dispatch_follows_protocol {σ : Type} (answer : σ → Request → Outcome × σ)
    (notification : Notification) (state : σ) :
    let transcript := (dispatch notification).run answer state
    match notification.instance? with
    | some nginx =>
      ∃ records,
        Handles (Answers answer) nginx Call.any state .createDeployment records transcript.result
          transcript.state ∧
        transcript.exchanges = records.filterMap CallRecord.exchange? ∧
        (∀ record ∈ records.dropLast, record.failure? = none) ∧
        (∀ record ∈ records, record.exchange? = none → record.failure? ≠ none) ∧
        (transcript.result = .ok () ↔ ∀ record ∈ records, record.failure? = none) ∧
        (∀ error, transcript.result = .error error ↔
          ∃ record, records.getLast? = some record ∧ record.failure? = some error)
    | none =>
      transcript.result = .ok () ∧ transcript.exchanges = [] ∧ transcript.state = state := by
  obtain ⟨object, deleted⟩ := notification
  cases object with
  | nginx nginx =>
      cases deleted with
      | true => exact ⟨rfl, rfl, rfl⟩
      | false =>
          obtain ⟨records, walk, exchanges⟩ := dispatch_walks answer nginx state
          exact ⟨records, walk, exchanges, walk.passed_of_mem_dropLast, walk.failed_of_unsent,
            walk.ok_iff, walk.error_iff⟩
  | deployment value => exact ⟨rfl, rfl, rfl⟩
  | service value => exact ⟨rfl, rfl, rfl⟩
  | pod value => exact ⟨rfl, rfl, rfl⟩

end NginxFleet
