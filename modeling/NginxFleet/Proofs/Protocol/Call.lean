/-
Module: NginxFleet.Proofs.Protocol.Call
Layer: Proofs
Purpose: The calls by which an instance is brought in line, as a table: what each call sends, how its
  answer is read, which failures it may have, and which call comes after it. Handling an instance is a
  walk through the table that stops at the first failure. The table says nothing of sessions, log
  lines or activities; `Protocol.Walk` shows that the operator's sessions walk through it.
Main exports: Call, Call.request, Call.failure?, Call.followUp?, CallRecord, Performs, Handles,
  Performs.answered, Performs.built, Handles.ok_iff, Handles.head?_requests, Handles.error_iff,
  Handles.map
-/
import NginxFleet.Reconcile.Dispatch

namespace NginxFleet

/-- A call on the server that handling an instance may make. -/
inductive Call where
  | createDeployment
  | fetchDeployment
  | replaceDeployment (repaired : Deployment)
  | createService
  | listPods
  | recordPods (pods : List PodEntry)
deriving DecidableEq, Repr

/-- What the answer to a call holds when it can be read. -/
inductive Reply where
  | deployment (value : Deployment)
  | service (value : Service)
  | pods (value : List Pod)
  | nginx (value : Nginx)
deriving Repr

namespace Call

def method : Call → Method
  | .createDeployment | .createService => .post
  | .fetchDeployment | .listPods => .get
  | .replaceDeployment _ | .recordPods _ => .put

/-- The text from which the target of a call is taken. -/
def targetText (nginx : Nginx) : Call → String
  | .createDeployment => "/apis/apps/v1/namespaces/" ++ nginx.namespaceName ++ "/deployments?"
  | .fetchDeployment =>
      "/apis/apps/v1/namespaces/" ++ nginx.namespaceName ++ "/deployments/" ++ nginx.deploymentName
  | .replaceDeployment _ =>
      "/apis/apps/v1/namespaces/" ++ nginx.namespaceName ++ "/deployments/" ++
        nginx.deploymentName ++ "?"
  | .createService => "/api/v1/namespaces/" ++ nginx.namespaceName ++ "/services?"
  | .listPods =>
      "/api/v1/namespaces/" ++ nginx.namespaceName ++ "/pods?&labelSelector=" ++
        Text.formEncode (labelSelector nginx.name)
  | .recordPods _ =>
      "/apis/nginx.tsuru.io/v1alpha1/namespaces/" ++ nginx.namespaceName ++ "/nginxes/" ++
        nginx.name ++ "/status?"

/-- The document that a call sends. -/
def body (nginx : Nginx) : Call → Option Json
  | .createDeployment => some nginx.desiredDeployment.toJson
  | .createService => some nginx.desiredService.toJson
  | .replaceDeployment repaired => some repaired.toJson
  | .recordPods pods => some { nginx with status := some { pods } }.toJson
  | .fetchDeployment | .listPods => none

/-- The name of the object that a call is about, if its path ends in one. -/
def objectName? (nginx : Nginx) : Call → Option String
  | .fetchDeployment | .replaceDeployment _ => some nginx.deploymentName
  | .recordPods _ => some nginx.name
  | .createDeployment | .createService | .listPods => none

/-- The request of a call, or why it cannot be built. -/
def request (nginx : Nginx) (call : Call) : Except ClientError Request :=
  if call.objectName? nginx = some "" then .error .emptyName
  else
    match Target.ofText (call.targetText nginx) with
    | .error fault => .error (.badTarget fault)
    | .ok target =>
      .ok { method := call.method, target, body := (call.body nginx).map Json.received }

/-- What a call makes of the outcome of its request. -/
def read (call : Call) (outcome : Outcome) : Except ClientError Reply :=
  match call with
  | .createDeployment | .fetchDeployment | .replaceDeployment _ =>
      (readAnswer Deployment.ofJson? outcome).map .deployment
  | .createService => (readAnswer Service.ofJson? outcome).map .service
  | .listPods => (readAnswer Pod.listOfJson? outcome).map .pods
  | .recordPods _ => (readAnswer Nginx.ofJson? outcome).map .nginx

/-- Whether an error is none for a call: a create may find that the object is already there, which
    the body of the refusal says by its code and its reason. -/
def tolerates : Call → ClientError → Bool
  | .createDeployment, .refused reply | .createService, .refused reply =>
      reply.code = 409 && reply.reason = "AlreadyExists"
  | _, _ => false

/-- The error of the operator for a call that failed. -/
def failure : Call → ClientError → OperatorError
  | .createDeployment, cause => .create .deployment cause
  | .fetchDeployment, cause => .retrieve .deployment cause
  | .replaceDeployment _, cause => .update .deployment cause
  | .createService, cause => .create .service cause
  | .listPods, cause => .listPods cause
  | .recordPods _, cause => .updateStatus cause

/-- The error with which handling an instance ends after a call, if it does. -/
def failure? (call : Call) : Except ClientError Reply → Option OperatorError
  | .ok _ => none
  | .error cause => if call.tolerates cause then none else some (call.failure cause)

/-- The call that comes after one that did not fail. -/
def followUp? (nginx : Nginx) : Call → Except ClientError Reply → Option Call
  | .createDeployment, .ok _ => some .createService
  | .createDeployment, .error _ => some .fetchDeployment
  | .fetchDeployment, .ok (.deployment existing) =>
      match existing.repair? nginx.desiredDeployment with
      | some repaired => some (.replaceDeployment repaired)
      | none => some .createService
  | .replaceDeployment _, _ => some .createService
  | .createService, _ => some .listPods
  | .listPods, .ok (.pods pods) =>
      if podsChanged (observedPods pods) nginx.storedPods then
        some (.recordPods (observedPods pods))
      else none
  | .fetchDeployment, _ | .listPods, _ | .recordPods _, _ => none

/-- The request of a call has its method, and its body as the server receives it. -/
theorem method_and_body_of_request {nginx : Nginx} {call : Call} {request : Request}
    (built : call.request nginx = .ok request) :
    request.method = call.method ∧ request.body = (call.body nginx).map Json.received := by
  unfold Call.request at built
  split at built
  · cases built
  · split at built
    · cases built
    · cases built
      exact ⟨rfl, rfl⟩

/-- A create does not tolerate that its request cannot be built. -/
theorem failure?_of_unbuilt {nginx : Nginx} {call : Call} {fault : ClientError}
    (unbuilt : call.request nginx = .error fault) :
    call.failure? (.error fault) = some (call.failure fault) := by
  have intolerable : call.tolerates fault = false := by
    unfold request at unbuilt
    split at unbuilt
    · cases unbuilt
      cases call <;> rfl
    · split at unbuilt
      · cases unbuilt
        cases call <;> rfl
      · cases unbuilt
  simp [failure?, intolerable]

/-- The calls that bring the deployment in line. -/
def aboutDeployment : Call → Bool
  | .createDeployment | .fetchDeployment | .replaceDeployment _ => true
  | .createService | .listPods | .recordPods _ => false

/-- The calls that bring the objects built for an instance in line. -/
def aboutDependents : Call → Bool
  | .createDeployment | .fetchDeployment | .replaceDeployment _ | .createService => true
  | .listPods | .recordPods _ => false

/-- Any call. -/
def any : Call → Bool := fun _ => true

end Call

/-- A call that was made: the request that was sent for it with its outcome, if one could be built,
    and what the call made of it. -/
structure CallRecord where
  call : Call
  exchange? : Option (Request × Outcome)
  result : Except ClientError Reply

namespace CallRecord

/-- The error with which handling an instance ends after a call, if it does. -/
def failure? (record : CallRecord) : Option OperatorError :=
  record.call.failure? record.result

/-- The call that comes next, of those that belong to the work at hand. -/
def next? (scope : Call → Bool) (nginx : Nginx) (record : CallRecord) : Option Call :=
  (record.call.followUp? nginx record.result).filter scope

theorem next?_any (nginx : Nginx) (record : CallRecord) :
    record.next? Call.any nginx = record.call.followUp? nginx record.result := by
  unfold next?
  cases record.call.followUp? nginx record.result <;> rfl

end CallRecord

section Walk

variable {σ : Type} (serves : σ → Request → Outcome → σ → Prop) (nginx : Nginx)

/-- A server that answers every request by a function of its state. -/
def Answers (answer : σ → Request → Outcome × σ) (state : σ) (request : Request)
    (outcome : Outcome) (next : σ) : Prop :=
  answer state request = (outcome, next)

/-- A call is made: its request is served, or there is none to send. -/
inductive Performs : σ → CallRecord → σ → Prop where
  | unbuilt {state : σ} {call : Call} {fault : ClientError}
      (unbuilt : call.request nginx = .error fault) :
      Performs state ⟨call, none, .error fault⟩ state
  | sent {state next : σ} {call : Call} {request : Request} {outcome : Outcome}
      (built : call.request nginx = .ok request)
      (served : serves state request outcome next) :
      Performs state ⟨call, some (request, outcome), call.read outcome⟩ next

/-- The calls made from one on, up to the first that fails or the last that belongs to the work at
    hand, and the result. -/
inductive Handles (scope : Call → Bool) :
    σ → Call → List CallRecord → Except OperatorError Unit → σ → Prop where
  | failed {state next : σ} {record : CallRecord} {error : OperatorError}
      (performed : Performs serves nginx state record next)
      (failure : record.failure? = some error) :
      Handles scope state record.call [record] (.error error) next
  | ended {state next : σ} {record : CallRecord}
      (performed : Performs serves nginx state record next)
      (passed : record.failure? = none)
      (last : record.next? scope nginx = none) :
      Handles scope state record.call [record] (.ok ()) next
  | continued {state next final : σ} {record : CallRecord} {call : Call}
      {records : List CallRecord} {result : Except OperatorError Unit}
      (performed : Performs serves nginx state record next)
      (passed : record.failure? = none)
      (more : record.next? scope nginx = some call)
      (rest : Handles scope next call records result final) :
      Handles scope state record.call (record :: records) result final

end Walk

namespace Performs

variable {σ : Type} {serves : σ → Request → Outcome → σ → Prop} {nginx : Nginx} {state next : σ}
  {record : CallRecord}

/-- A call for which nothing was sent has failed. -/
theorem failed_of_unsent (performed : Performs serves nginx state record next)
    (unsent : record.exchange? = none) : record.failure? ≠ none := by
  cases performed with
  | unbuilt fault => simp [CallRecord.failure?, Call.failure?_of_unbuilt fault]
  | sent built served => cases unsent

/-- A request that was sent for a call is the request of the call. -/
theorem built {exchange : Request × Outcome} (performed : Performs serves nginx state record next)
    (sent : record.exchange? = some exchange) : record.call.request nginx = .ok exchange.1 := by
  cases performed with
  | unbuilt unbuilt => cases sent
  | sent built served =>
      cases sent
      exact built

/-- A call that can be sent has the answer to its request from a server that answers by a function of
    its state. -/
theorem answered {answer : σ → Request → Outcome × σ} {request : Request}
    (performed : Performs (Answers answer) nginx state record next)
    (built : record.call.request nginx = .ok request) :
    record.exchange? = some (request, (answer state request).1) ∧
      record.result = record.call.read (answer state request).1 ∧
      next = (answer state request).2 := by
  cases performed with
  | unbuilt unbuilt =>
      rw [built] at unbuilt
      cases unbuilt
  | sent sent served =>
      rw [built] at sent
      cases sent
      unfold Answers at served
      simp only [served, and_self]

end Performs

/-!
### Where a walk ends

Only the last call of a walk can have failed, and the result is its error.
-/

namespace Handles

variable {σ : Type} {serves : σ → Request → Outcome → σ → Prop} {nginx : Nginx}
  {scope : Call → Bool} {state final : σ} {call : Call} {records : List CallRecord}
  {result : Except OperatorError Unit}

theorem records_ne_nil (walk : Handles serves nginx scope state call records result final) :
    records ≠ [] := by
  cases walk <;> exact List.cons_ne_nil _ _

/-- Every call of a walk was made. -/
theorem performed_of_mem
    (walk : Handles serves nginx scope state call records result final) :
    ∀ record ∈ records, ∃ before after, Performs serves nginx before record after := by
  induction walk with
  | failed performed failure => simpa using ⟨_, _, performed⟩
  | ended performed passed last => simpa using ⟨_, _, performed⟩
  | continued performed passed more rest ih =>
      exact List.forall_mem_cons.mpr ⟨⟨_, _, performed⟩, ih⟩

/-- A walk ends well exactly if none of its calls failed. -/
theorem ok_iff (walk : Handles serves nginx scope state call records result final) :
    result = .ok () ↔ ∀ record ∈ records, record.failure? = none := by
  induction walk with
  | failed performed failure => simp [failure]
  | ended performed passed last => simp [passed]
  | continued performed passed more rest ih => simp [passed, ih]

/-- Every call but the last has passed. -/
theorem passed_of_mem_dropLast
    (walk : Handles serves nginx scope state call records result final) :
    ∀ record ∈ records.dropLast, record.failure? = none := by
  induction walk with
  | failed performed failure => simp
  | ended performed passed last => simp
  | continued performed passed more rest ih =>
      rw [List.dropLast_cons_of_ne_nil rest.records_ne_nil]
      intro record member
      rcases List.mem_cons.mp member with rfl | member
      · exact passed
      · exact ih record member

/-- A call for which nothing was sent has failed. -/
theorem failed_of_unsent (walk : Handles serves nginx scope state call records result final) :
    ∀ record ∈ records, record.exchange? = none → record.failure? ≠ none := by
  induction walk with
  | failed performed failure => simpa using performed.failed_of_unsent
  | ended performed passed last => simpa using performed.failed_of_unsent
  | continued performed passed more rest ih => simpa using ⟨performed.failed_of_unsent, ih⟩

/-- A walk seen through a view of the server's states is a walk. -/
theorem map {τ : Type} {sees : τ → Request → Outcome → τ → Prop} (view : σ → τ)
    (follows : ∀ state request outcome next, serves state request outcome next →
      sees (view state) request outcome (view next))
    (walk : Handles serves nginx scope state call records result final) :
    Handles sees nginx scope (view state) call records result (view final) := by
  have seen : ∀ {state next : σ} {record : CallRecord},
      Performs serves nginx state record next →
        Performs sees nginx (view state) record (view next) := by
    intro state next record performed
    cases performed with
    | unbuilt unbuilt => exact .unbuilt unbuilt
    | sent built served => exact .sent built (follows _ _ _ _ served)
  induction walk with
  | failed performed failure => exact .failed (seen performed) failure
  | ended performed passed last => exact .ended (seen performed) passed last
  | continued performed passed more rest ih => exact .continued (seen performed) passed more ih

/-- A walk sends the request of its first call first, and nothing if there is none to send. -/
theorem head?_requests
    (walk : Handles serves nginx scope state call records result final) :
    ((records.filterMap CallRecord.exchange?).map Prod.fst).head? =
      (call.request nginx).toOption := by
  obtain ⟨record, later, next, rfl, rfl, performed, ends⟩ : ∃ record later next,
      records = record :: later ∧ record.call = call ∧
        Performs serves nginx state record next ∧ (record.failure? ≠ none → later = []) := by
    cases walk with
    | failed performed failure => exact ⟨_, [], _, rfl, rfl, performed, fun _ => rfl⟩
    | ended performed passed last => exact ⟨_, [], _, rfl, rfl, performed, fun _ => rfl⟩
    | continued performed passed more rest =>
        exact ⟨_, _, _, rfl, rfl, performed, fun failed => absurd passed failed⟩
  have failed := performed.failed_of_unsent
  cases performed with
  | unbuilt unbuilt => simp [ends (failed rfl), unbuilt, Except.toOption]
  | sent built served => simp [built, Except.toOption]

/-- A walk ends in an error exactly if its last call failed with it. -/
theorem error_iff (walk : Handles serves nginx scope state call records result final)
    (error : OperatorError) :
    result = .error error ↔ ∃ record, records.getLast? = some record ∧
      record.failure? = some error := by
  induction walk with
  | failed performed failure => simp [failure]
  | ended performed passed last => simp [passed]
  | continued performed passed more rest ih =>
      rw [ih, List.getLast?_cons_of_ne_nil rest.records_ne_nil]

end Handles

end NginxFleet
