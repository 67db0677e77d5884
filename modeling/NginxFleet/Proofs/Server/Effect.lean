/-
Module: NginxFleet.Proofs.Server.Effect
Layer: Proofs
Purpose: What the calls of an instance do on a store of objects. A server may finish a document before
  it stores it: give it a version, or fill in what was left out. Each call then has one effect, which
  says what the caller reads and what the store is afterwards; a call touches the object that it is
  about and no other.
Main exports: ObjectStore.serveWith, ObjectStore.serveWith_id, Call.effect, Call.read_serveWith,
  Call.create_cases, Call.fetchDeployment_cases, Call.change_cases, Call.effect_frame
-/
import NginxFleet.Proofs.Protocol.Sent
import NginxFleet.Proofs.Wire.Version
import NginxFleet.Server.Cluster

namespace NginxFleet

/-!
### Servers that finish documents
-/

namespace ObjectStore

/-- Stores a new object in its finished form, unless its key is taken. -/
def createWith (finish : ObjectKey → Json → Json) (store : ObjectStore)
    (collection namespaceName : String) (object : Json) : Outcome × ObjectStore :=
  let key : ObjectKey := ⟨collection, namespaceName, (object.metadataText? "name").getD ""⟩
  match store.get? key with
  | some _ => store.serveCreate collection namespaceName object
  | none => (.answer 201 (.document (finish key object)), store.put key (finish key object))

/-- The outcome of a request, and the store afterwards, on a server that finishes every document
    before it stores it. -/
def serveWith (finish : ObjectKey → Json → Json) (store : ObjectStore) (request : Request) :
    Outcome × ObjectStore :=
  let body := request.body.getD .null
  match Place.ofPath? request.target.path, request.method with
  | some (.all collection namespaceName), .post =>
    store.createWith finish collection namespaceName body
  | some (.one key), .put => store.serveChange key fun _ => finish key body
  | some (.status key), .put =>
    store.serveChange key fun object => finish key (withStatusOf body object)
  | _, _ => store.serve request

theorem createWith_id (store : ObjectStore) (collection namespaceName : String) (object : Json) :
    store.createWith (fun _ document => document) collection namespaceName object =
      store.serveCreate collection namespaceName object := by
  unfold createWith
  dsimp only
  split
  · rfl
  · rename_i free
    simp only [serveCreate, free]

/-- A server that stores documents as they come is the plain one. -/
theorem serveWith_id (store : ObjectStore) (request : Request) :
    store.serveWith (fun _ document => document) request = store.serve request := by
  unfold serveWith
  split
  · rename_i place method
    simp only [serve, place, method, createWith_id]
  · rename_i place method
    simp only [serve, place, method]
  · rename_i place method
    simp only [serve, place, method]
  · rfl

end ObjectStore

/-!
### The objects of an instance
-/

namespace Nginx

/-- Where the deployment of an instance is kept. -/
def deploymentKey (nginx : Nginx) : ObjectKey :=
  ⟨"deployments", nginx.namespaceName, nginx.deploymentName⟩

/-- Where the service of an instance is kept. -/
def serviceKey (nginx : Nginx) : ObjectKey :=
  ⟨"services", nginx.namespaceName, nginx.serviceName⟩

/-- Where an instance is kept. -/
def storeKey (nginx : Nginx) : ObjectKey :=
  Cluster.nginxKey nginx.namespaceName nginx.name

/-- The place of a deployment tells the instance by its namespace and its name. -/
theorem deploymentKey_inj {nginx other : Nginx} :
    nginx.deploymentKey = other.deploymentKey ↔
      nginx.namespaceName = other.namespaceName ∧ nginx.name = other.name := by
  simp [deploymentKey, deploymentName, String.append_left_inj]

theorem serviceKey_ne_deploymentKey (nginx : Nginx) : nginx.serviceKey ≠ nginx.deploymentKey := by
  simp [serviceKey, deploymentKey]

theorem storeKey_ne_deploymentKey (nginx : Nginx) : nginx.storeKey ≠ nginx.deploymentKey := by
  simp [storeKey, Cluster.nginxKey, plural, deploymentKey]

theorem storeKey_ne_serviceKey (nginx : Nginx) : nginx.storeKey ≠ nginx.serviceKey := by
  simp [storeKey, Cluster.nginxKey, plural, serviceKey]

/-- The list of the pods of an instance, as the server gives it. -/
def podList (nginx : Nginx) (store : ObjectStore) : Json :=
  .obj [("items", .arr (store.selected "pods" nginx.namespaceName
    (Selector.ofQuery (Call.listPods.query nginx))))]

end Nginx

/-!
### What is read in an answer
-/

/-- What a document in an answer is read as. -/
def readDocument {α : Type} (read : Json → Option α) (document : Json) : Except ClientError α :=
  match read document.received with
  | some value => .ok value
  | none => .error .unreadable

/-- What an answer gives was read in a document. -/
theorem document_of_readAnswer {α : Type} {read : Json → Option α} {outcome : Outcome} {value : α}
    (reading : readAnswer read outcome = .ok value) : ∃ document, read document = some value := by
  unfold readAnswer at reading
  split at reading
  · cases reading
  · split at reading
    · cases reading
    · split at reading
      · cases reading
      · rename_i found _
        cases given : found.bind read with
        | none => simp [given] at reading
        | some other =>
            simp only [given, Except.ok.injEq] at reading
            subst reading
            obtain ⟨document, -, same⟩ := Option.bind_eq_some_iff.mp given
            exact ⟨document, same⟩

theorem readAnswer_document {α : Type} (read : Json → Option α) {status : Nat} (document : Json)
    (success : isFailure status = false) :
    readAnswer read (.answer status (.document document)) = readDocument read document := by
  simp only [readAnswer, success]
  rfl

theorem readCode_int {code : Nat} (small : code < 65536) :
    ErrorReply.readCode (.int code) = some code := by
  have fits : 0 ≤ (code : Int) ∧ (code : Int) < 65536 := by omega
  unfold ErrorReply.readCode
  simp only [fits, and_self, if_true, Int.toNat_natCast]

theorem ErrorReply.ofJson?_obj {members : List (String × Json)} {status message reason : String}
    {code : Nat} (small : code < 65536)
    (statuses : Json.occurrences "status" members = [.str status])
    (messages : Json.occurrences "message" members = [.str message])
    (reasons : Json.occurrences "reason" members = [.str reason])
    (codes : Json.occurrences "code" members = [.int code]) :
    ofJson? (.obj members) = some { status, message, reason, code } := by
  have strict : Json.strictMembers ["status", "message", "reason", "code"] 4 (.obj members) =
      some members := by
    apply Json.strictMembers_obj 4
    simp [statuses, messages, reasons, codes]
  have text : Json.required Json.readText "status" members = some status :=
    Json.required_single statuses
  have number : Json.required readCode "code" members = some code := by
    rw [Json.required_single codes, readCode_int small]
  unfold ofJson?
  rw [strict]
  simp only [Option.bind_eq_bind, Option.bind_some, Json.orMissing, messages, reasons]
  rw [text, number]
  rfl

theorem ofJson?_refusalDocument {code : Nat} (small : code < 65536) (reason message : String) :
    ErrorReply.ofJson? (refusalDocument code reason message) =
      some { status := "Failure", message, reason, code } :=
  ErrorReply.ofJson?_obj small rfl rfl rfl rfl

theorem readAnswer_reply {α : Type} (read : Json → Option α) {code : Nat}
    (failure : isFailure code = true) {document : Json} {reply : ErrorReply}
    (reading : ErrorReply.ofJson? document.received = some reply) :
    readAnswer read (.answer code (.document document)) = .error (.refused reply) := by
  unfold readAnswer
  simp only [failure, if_true, refusalOf, Body.asText, Body.asDocument, Option.bind_some, reading]

/-- A refusal is read as an error that says what the server said. -/
theorem readAnswer_refusal {α : Type} (read : Json → Option α) {code : Nat}
    (failure : isFailure code = true) (reason message : String) :
    readAnswer read (refusal code reason message) =
      .error (.refused { status := "Failure", message, reason, code }) := by
  have small : code < 65536 := by
    simp only [isFailure, Bool.and_eq_true, decide_eq_true_eq] at failure
    omega
  have same : (refusalDocument code reason message).received =
      refusalDocument code reason message := rfl
  apply readAnswer_reply read failure
  rw [same]
  exact ofJson?_refusalDocument small reason message

/-!
### The effect of a call
-/

namespace Call

/-- The error for a key that is taken. -/
def taken (key : ObjectKey) : ClientError :=
  .refused {
    status := "Failure"
    message := key.collection ++ " \"" ++ key.name ++ "\" already exists"
    reason := "AlreadyExists"
    code := 409 }

/-- The error for a key under which there is nothing. -/
def missing (key : ObjectKey) : ClientError :=
  .refused {
    status := "Failure"
    message := key.collection ++ " \"" ++ key.name ++ "\" not found"
    reason := "NotFound"
    code := 404 }

/-- What is read of a call, and the store afterwards. -/
def effect (finish : ObjectKey → Json → Json) (nginx : Nginx) (store : ObjectStore) :
    Call → Except ClientError Reply × ObjectStore
  | .createDeployment =>
    match store.get? nginx.deploymentKey with
    | some _ => (.error (taken nginx.deploymentKey), store)
    | none =>
      let document := finish nginx.deploymentKey nginx.desiredDeployment.toJson.received
      ((readDocument Deployment.ofJson? document).map .deployment,
        store.put nginx.deploymentKey document)
  | .fetchDeployment =>
    match store.get? nginx.deploymentKey with
    | some document => ((readDocument Deployment.ofJson? document).map .deployment, store)
    | none => (.error (missing nginx.deploymentKey), store)
  | .replaceDeployment repaired =>
    match store.get? nginx.deploymentKey with
    | some _ =>
      let document := finish nginx.deploymentKey repaired.toJson.received
      ((readDocument Deployment.ofJson? document).map .deployment,
        store.put nginx.deploymentKey document)
    | none => (.error (missing nginx.deploymentKey), store)
  | .createService =>
    match store.get? nginx.serviceKey with
    | some _ => (.error (taken nginx.serviceKey), store)
    | none =>
      let document := finish nginx.serviceKey nginx.desiredService.toJson.received
      ((readDocument Service.ofJson? document).map .service,
        store.put nginx.serviceKey document)
  | .listPods => ((readDocument Pod.listOfJson? (nginx.podList store)).map .pods, store)
  | .recordPods pods =>
    match store.get? nginx.storeKey with
    | some object =>
      let document := finish nginx.storeKey
        (Json.setMember "status" (NginxStatus.toJson { pods }) object)
      ((readDocument Nginx.ofJson? document).map .nginx, store.put nginx.storeKey document)
    | none => (.error (missing nginx.storeKey), store)

variable {nginx : Nginx}

theorem name_desiredDeployment (nginx : Nginx) :
    nginx.desiredDeployment.toJson.received.metadataText? "name" = some nginx.deploymentName := by
  rw [Deployment.received_toJson nginx.sendable_desiredDeployment,
    Deployment.metadataText?_toJson, ObjectMeta.name_toJson]
  rfl

theorem name_desiredService (nginx : Nginx) :
    nginx.desiredService.toJson.received.metadataText? "name" = some nginx.serviceName := by
  rw [nginx.received_desiredService, Service.metadataText?_toJson, ObjectMeta.name_toJson]
  rfl

/-- The status that is recorded is the one in the body of the call. -/
theorem withStatusOf_recordPods (pods : List PodEntry) (object : Json) :
    ObjectStore.withStatusOf (Json.received { nginx with status := some { pods } }.toJson) object =
      Json.setMember "status" (NginxStatus.toJson { pods }) object := by
  have status : (Json.received { nginx with status := some { pods } }.toJson).member? "status" =
      some (NginxStatus.toJson { pods }) := by
    simp [Nginx.toJson, Json.member?, Json.record, Json.received, Json.membersReceived_setMembers,
      Json.occurrences_setMembers_cons, NginxStatus.received_toJson]
  simp [ObjectStore.withStatusOf, status]

/-- What a call makes of a document in an answer. -/
def readReply (document : Json) : Call → Except ClientError Reply
  | .createDeployment | .fetchDeployment | .replaceDeployment _ =>
      (readDocument Deployment.ofJson? document).map .deployment
  | .createService => (readDocument Service.ofJson? document).map .service
  | .listPods => (readDocument Pod.listOfJson? document).map .pods
  | .recordPods _ => (readDocument Nginx.ofJson? document).map .nginx

theorem read_document (call : Call) {status : Nat} (success : isFailure status = false)
    (document : Json) :
    call.read (.answer status (.document document)) = call.readReply document := by
  cases call <;> simp only [read, readReply, readAnswer_document _ _ success]

theorem read_refusal (call : Call) {code : Nat} (failure : isFailure code = true)
    (reason message : String) :
    call.read (refusal code reason message) =
      .error (.refused { status := "Failure", message, reason, code }) := by
  cases call <;> simp only [read, readAnswer_refusal _ failure] <;> rfl

theorem read_notFound (call : Call) (key : ObjectKey) :
    call.read (ObjectStore.notFound key) = .error (missing key) :=
  call.read_refusal rfl _ _

section Requests

variable (call : Call) (store : ObjectStore) (key : ObjectKey)

/-- What is read of a create, and the store afterwards. -/
theorem read_createWith (finish : ObjectKey → Json → Json) {object : Json}
    (named : object.metadataText? "name" = some key.name) :
    let made := store.createWith finish key.collection key.namespaceName object
    (call.read made.1, made.2) =
      match store.get? key with
      | some _ => (.error (taken key), store)
      | none => (call.readReply (finish key object), store.put key (finish key object)) := by
  simp only [ObjectStore.createWith, ObjectStore.serveCreate, named, Option.getD_some]
  cases store.get? key with
  | some document => exact congrArg (·, store) (call.read_refusal rfl _ _)
  | none => exact congrArg (·, store.put key (finish key object)) (call.read_document rfl _)

/-- What is read of a change, and the store afterwards. -/
theorem read_serveChange (change : Json → Json) :
    let changed := store.serveChange key change
    (call.read changed.1, changed.2) =
      match store.get? key with
      | some object => (call.readReply (change object), store.put key (change object))
      | none => (.error (missing key), store) := by
  simp only [ObjectStore.serveChange]
  cases store.get? key with
  | some object => exact congrArg (·, store.put key (change object)) (call.read_document rfl _)
  | none => exact congrArg (·, store) (call.read_notFound key)

theorem read_serveRead :
    call.read (store.serveRead key) =
      match store.get? key with
      | some object => call.readReply object
      | none => .error (missing key) := by
  unfold ObjectStore.serveRead
  cases store.get? key with
  | some object => exact call.read_document rfl object
  | none => exact call.read_notFound key

end Requests

/-- What a call reads from a server that finishes documents, and the store afterwards, is the effect
    of the call. -/
theorem read_serveWith (admissible : nginx.Admissible) (finish : ObjectKey → Json → Json)
    (store : ObjectStore) (call : Call) :
    (call.read (store.serveWith finish (call.sent nginx)).1,
      (store.serveWith finish (call.sent nginx)).2) = call.effect finish nginx store := by
  have place := ofPath?_sent admissible call
  unfold ObjectStore.serveWith
  rw [place]
  cases call with
  | createDeployment =>
      exact read_createWith .createDeployment store nginx.deploymentKey finish
        (name_desiredDeployment nginx)
  | createService =>
      exact read_createWith .createService store nginx.serviceKey finish (name_desiredService nginx)
  | replaceDeployment repaired =>
      exact read_serveChange (.replaceDeployment repaired) store nginx.deploymentKey _
  | recordPods pods =>
      simp only [Call.place, sent, method, body, Option.map_some, Option.getD_some,
        withStatusOf_recordPods]
      exact read_serveChange (.recordPods pods) store nginx.storeKey _
  | fetchDeployment =>
      show (Call.fetchDeployment.read (store.serve (Call.fetchDeployment.sent nginx)).1,
        (store.serve (Call.fetchDeployment.sent nginx)).2) = _
      unfold ObjectStore.serve
      rw [place]
      show (Call.fetchDeployment.read (store.serveRead nginx.deploymentKey), store) = _
      rw [read_serveRead, effect]
      cases store.get? nginx.deploymentKey <;> rfl
  | listPods =>
      show (Call.listPods.read (store.serve (Call.listPods.sent nginx)).1,
        (store.serve (Call.listPods.sent nginx)).2) = _
      unfold ObjectStore.serve
      rw [place]
      exact congrArg (·, store) (Call.listPods.read_document rfl (nginx.podList store))

/-!
### What a call may have done

A create finds its key taken or free, and any other call finds the object that it is about or none.
-/

/-- The key under which a call may write. -/
def written? (nginx : Nginx) : Call → Option ObjectKey
  | .createDeployment | .replaceDeployment _ => some nginx.deploymentKey
  | .createService => some nginx.serviceKey
  | .recordPods _ => some nginx.storeKey
  | .fetchDeployment | .listPods => none

/-- The key under which a call creates an object, if it is a create. -/
def created? (nginx : Nginx) : Call → Option ObjectKey
  | .createDeployment => some nginx.deploymentKey
  | .createService => some nginx.serviceKey
  | .fetchDeployment | .replaceDeployment _ | .listPods | .recordPods _ => none

/-- What a call makes of the object under its key, if it changes one. -/
def change? : Call → Option (Json → Json)
  | .replaceDeployment repaired => some fun _ => repaired.toJson.received
  | .recordPods pods => some fun object =>
      Json.setMember "status" (NginxStatus.toJson { pods }) object
  | .createDeployment | .createService | .fetchDeployment | .listPods => none

section Cases

variable {finish : ObjectKey → Json → Json} {store next : ObjectStore}
  {result : Except ClientError Reply} {call : Call} {key : ObjectKey}

theorem effect_of_created? {object : Json} (creates : call.created? nginx = some key)
    (sends : call.body nginx = some object) :
    call.effect finish nginx store =
      match store.get? key with
      | some _ => (.error (taken key), store)
      | none => (call.readReply (finish key object.received),
          store.put key (finish key object.received)) := by
  cases call with
  | createDeployment | createService =>
      cases creates
      cases sends
      rfl
  | fetchDeployment | replaceDeployment | listPods | recordPods => cases creates

theorem effect_of_change? {change : Json → Json} (changes : call.change? = some change)
    (about : call.written? nginx = some key) :
    call.effect finish nginx store =
      match store.get? key with
      | some existing => (call.readReply (finish key (change existing)),
          store.put key (finish key (change existing)))
      | none => (.error (missing key), store) := by
  cases call with
  | replaceDeployment | recordPods =>
      cases changes
      cases about
      rfl
  | createDeployment | createService | fetchDeployment | listPods => cases changes

theorem create_cases {object : Json} (creates : call.created? nginx = some key)
    (sends : call.body nginx = some object)
    (effect : call.effect finish nginx store = (result, next)) :
    (∃ document, store.get? key = some document ∧ result = .error (taken key) ∧ next = store) ∨
    store.get? key = none ∧
      ∃ document, document = finish key object.received ∧ result = call.readReply document ∧
        next = store.put key document := by
  rw [effect_of_created? creates sends] at effect
  cases found : store.get? key with
  | some document =>
      rw [found] at effect
      obtain ⟨rfl, rfl⟩ := Prod.mk.inj effect
      exact .inl ⟨document, rfl, rfl, rfl⟩
  | none =>
      rw [found] at effect
      obtain ⟨rfl, rfl⟩ := Prod.mk.inj effect
      exact .inr ⟨rfl, _, rfl, rfl, rfl⟩

theorem change_cases {change : Json → Json} (changes : call.change? = some change)
    (about : call.written? nginx = some key)
    (effect : call.effect finish nginx store = (result, next)) :
    (store.get? key = none ∧ result = .error (missing key) ∧ next = store) ∨
    ∃ existing, store.get? key = some existing ∧
      ∃ document, document = finish key (change existing) ∧ result = call.readReply document ∧
        next = store.put key document := by
  rw [effect_of_change? changes about] at effect
  cases found : store.get? key with
  | some existing =>
      rw [found] at effect
      obtain ⟨rfl, rfl⟩ := Prod.mk.inj effect
      exact .inr ⟨existing, rfl, _, rfl, rfl, rfl⟩
  | none =>
      rw [found] at effect
      obtain ⟨rfl, rfl⟩ := Prod.mk.inj effect
      exact .inl ⟨rfl, rfl, rfl⟩

theorem fetchDeployment_cases
    (effect : fetchDeployment.effect finish nginx store = (result, next)) :
    next = store ∧
      ((∃ document, store.get? nginx.deploymentKey = some document ∧
        result = (readDocument Deployment.ofJson? document).map .deployment) ∨
      store.get? nginx.deploymentKey = none ∧
        result = .error (missing nginx.deploymentKey)) := by
  unfold Call.effect at effect
  cases found : store.get? nginx.deploymentKey with
  | some document =>
      rw [found] at effect
      obtain ⟨rfl, rfl⟩ := Prod.mk.inj effect
      exact ⟨rfl, .inl ⟨document, rfl, rfl⟩⟩
  | none =>
      rw [found] at effect
      obtain ⟨rfl, rfl⟩ := Prod.mk.inj effect
      exact ⟨rfl, .inr ⟨rfl, rfl⟩⟩

end Cases

/-!
### What a call leaves as it is
-/

/-- A call leaves what is under any other key. -/
theorem effect_frame {finish : ObjectKey → Json → Json} {store : ObjectStore} {call : Call}
    {key : ObjectKey} (other : call.written? nginx ≠ some key) :
    (call.effect finish nginx store).2.get? key = store.get? key := by
  have apart : ∀ target document, call.written? nginx = some target →
      (store.put target document).get? key = store.get? key := by
    intro target document written
    rw [ObjectStore.get?_put, if_neg]
    rintro rfl
    exact other written
  cases call with
  | fetchDeployment =>
      simp only [effect]
      split <;> rfl
  | listPods => rfl
  | createDeployment | createService =>
      simp only [effect]
      split
      · rfl
      · exact apart _ _ rfl
  | replaceDeployment repaired | recordPods pods =>
      simp only [effect]
      split
      · exact apart _ _ rfl
      · rfl

end Call

/-- Stores that agree on the pods of a namespace give the same list of pods. -/
theorem Nginx.podList_congr {nginx : Nginx} {store other : ObjectStore}
    (same : ∀ name, store.get? ⟨"pods", nginx.namespaceName, name⟩ =
      other.get? ⟨"pods", nginx.namespaceName, name⟩) :
    nginx.podList store = nginx.podList other := by
  have pods : store.objects "pods" nginx.namespaceName =
      other.objects "pods" nginx.namespaceName := KeyMap.ext_get? same
  unfold podList ObjectStore.selected
  rw [pods]

end NginxFleet
