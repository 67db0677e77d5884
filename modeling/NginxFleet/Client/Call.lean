/-
Module: NginxFleet.Client.Call
Layer: Client
Purpose: The calls that the operator makes on the server's collections: create, get, replace, replace
  of a status, and listing the pods that a selector finds. A call builds its request, whose target
  is checked before anything is sent, and reads the answer: a status of failure carries a refusal,
  any other status must carry an object of the expected type.
Main exports: Collection, readAnswer, create, fetch, replace, replaceStatus, listPods
-/
import NginxFleet.Client.Error
import NginxFleet.Nginx.Wire
import NginxFleet.Object.Deployment
import NginxFleet.Object.Pod
import NginxFleet.Object.Service
import NginxFleet.Session
import NginxFleet.Text.FormEncoded

namespace NginxFleet

/-- A kind of objects as the server keeps them: where they are found, how one is read and written. -/
structure Collection (α : Type) where
  root : String
  plural : String
  read : Json → Option α
  write : α → Json

namespace Collection

/-- The deployments. -/
def deployments : Collection Deployment :=
  ⟨"/apis/apps/v1", "deployments", Deployment.ofJson?, Deployment.toJson⟩

/-- The services. -/
def services : Collection Service :=
  ⟨"/api/v1", "services", Service.ofJson?, Service.toJson⟩

/-- The Nginx instances. -/
def nginxes : Collection Nginx :=
  ⟨"/apis/" ++ Nginx.apiVersion, Nginx.plural, Nginx.ofJson?, Nginx.toJson⟩

/-- The place of the pods. -/
def podsRoot : String := "/api/v1"

/-- The path of all objects of a collection, or of those in one namespace. -/
def pathOf (root plural : String) : Option String → String
  | some namespaceName => root ++ "/namespaces/" ++ namespaceName ++ "/" ++ plural
  | none => root ++ "/" ++ plural

/-- The path of the objects in one namespace. -/
def path {α : Type} (collection : Collection α) (namespaceName : String) : String :=
  pathOf collection.root collection.plural (some namespaceName)

end Collection

/-- Whether a status is one of failure. -/
def isFailure (status : Nat) : Bool := 400 ≤ status && status < 600

/-- The refusal that an answer with a status of failure carries. A body that is no refusal is quoted
    as the message of one. -/
def refusalOf (status : Nat) (body : Body) : ClientError :=
  match body.asText, body.asDocument with
  | .error fault, _ => .notText fault
  | _, .error fault => .notText fault
  | .ok text, .ok document =>
    match document.bind ErrorReply.ofJson? with
    | some reply => .refused reply
    | none =>
      .refused {
        status := statusText status
        message := Text.quoted text
        reason := "Failed to parse error data"
        code := status }

/-- What an outcome of a request gives, if an object is expected. -/
def readAnswer {α : Type} (read : Json → Option α) : Outcome → Except ClientError α
  | .failure reason => .error (.transport reason)
  | .answer status body =>
    if isFailure status then .error (refusalOf status body)
    else
      match body.asDocument with
      | .error fault => .error (.notText fault)
      | .ok document =>
        match document.bind read with
        | some value => .ok value
        | none => .error .unreadable

/-- Sends a request to a target given as text, and reads the answer. Nothing is sent to a text that
    is no target. -/
def call {α : Type} (method : Method) (target : String) (body : Option Json)
    (read : Json → Option α) : Session (Except ClientError α) :=
  match Target.ofText target with
  | .error fault => .done (.error (.badTarget fault))
  | .ok target =>
    .send { method, target, body := body.map Json.received } fun outcome =>
      .done (readAnswer read outcome)

/-- Creates an object. -/
def create {α : Type} (collection : Collection α) (namespaceName : String) (object : α) :
    Session (Except ClientError α) :=
  call .post (collection.path namespaceName ++ "?") (some (collection.write object))
    collection.read

/-- Gets an object by name. -/
def fetch {α : Type} (collection : Collection α) (namespaceName name : String) :
    Session (Except ClientError α) :=
  if name = "" then .done (.error .emptyName)
  else call .get (collection.path namespaceName ++ "/" ++ name) none collection.read

/-- Replaces an object by name. -/
def replace {α : Type} (collection : Collection α) (namespaceName name : String) (object : α) :
    Session (Except ClientError α) :=
  if name = "" then .done (.error .emptyName)
  else
    call .put (collection.path namespaceName ++ "/" ++ name ++ "?")
      (some (collection.write object)) collection.read

/-- Replaces the status of an object by name. -/
def replaceStatus {α : Type} (collection : Collection α) (namespaceName name : String)
    (object : α) : Session (Except ClientError α) :=
  if name = "" then .done (.error .emptyName)
  else
    call .put (collection.path namespaceName ++ "/" ++ name ++ "/status?")
      (some (collection.write object)) collection.read

/-- Lists the pods that a selector finds. -/
def listPods (namespaceName selector : String) : Session (Except ClientError (List Pod)) :=
  call .get
    (Collection.pathOf Collection.podsRoot "pods" (some namespaceName) ++
      "?&labelSelector=" ++ Text.formEncode selector)
    none Pod.listOfJson?

end NginxFleet
