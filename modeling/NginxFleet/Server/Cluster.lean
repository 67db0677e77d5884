/-
Module: NginxFleet.Server.Cluster
Layer: Server
Purpose: A server over a store of objects. Creating needs a free key, reading and replacing need an
  object, replacing a status leaves the rest of the object as it is, and listing gives the objects
  of one namespace that a selector finds. Single requests can be made to fail.
Main exports: ObjectStore.serve, Cluster, Cluster.answer, Cluster.apply
-/
import NginxFleet.Json.Edit
import NginxFleet.Nginx.Basic
import NginxFleet.Object.Document
import NginxFleet.Object.Selector
import NginxFleet.Server.ObjectStore
import NginxFleet.Server.Refusal
import NginxFleet.Text.FormEncoded

namespace NginxFleet

/-- The selector in a query, selecting everything if there is none. -/
def Selector.ofQuery (query : String) : Selector :=
  let parts := (Text.split '&' query).filterMap (Text.cutAt? '=')
  match (parts.lookup "labelSelector").bind Text.formDecode with
  | some text => ofText text
  | none => []

/-!
### Requests on a store
-/

namespace ObjectStore

open Json

/-- Stores a new object, unless its key is taken. -/
def serveCreate (store : ObjectStore) (collection namespaceName : String) (object : Json) :
    Outcome × ObjectStore :=
  let name := (metadataText? "name" object).getD ""
  let key : ObjectKey := ⟨collection, namespaceName, name⟩
  match store.get? key with
  | some _ =>
    (refusal 409 "AlreadyExists" (collection ++ " \"" ++ name ++ "\" already exists"), store)
  | none => (.answer 201 (.document object), store.put key object)

/-- The refusal for a key with no object. -/
def notFound (key : ObjectKey) : Outcome :=
  refusal 404 "NotFound" (key.collection ++ " \"" ++ key.name ++ "\" not found")

/-- Gives an object. -/
def serveRead (store : ObjectStore) (key : ObjectKey) : Outcome :=
  match store.get? key with
  | some object => .answer 200 (.document object)
  | none => notFound key

/-- Changes an object that is there. -/
def serveChange (store : ObjectStore) (key : ObjectKey) (change : Json → Json) :
    Outcome × ObjectStore :=
  match store.get? key with
  | some object => (.answer 200 (.document (change object)), store.put key (change object))
  | none => (notFound key, store)

/-- The objects of a collection in a namespace that a selector finds. -/
def selected (store : ObjectStore) (collection namespaceName : String) (selector : Selector) :
    List Json :=
  ((store.objects collection namespaceName).entries.map Prod.snd).filter fun object =>
    selector.selects fun key => label? key object

/-- An object with the status of another document. -/
def withStatusOf (document object : Json) : Json :=
  setMember "status" ((document.member? "status").getD .null) object

/-- The outcome of a request, and the store afterwards. -/
def serve (store : ObjectStore) (request : Request) : Outcome × ObjectStore :=
  let body := request.body.getD .null
  match Place.ofPath? request.target.path, request.method with
  | some (.all collection namespaceName), .post =>
    store.serveCreate collection namespaceName body
  | some (.all collection namespaceName), .get =>
    let found := store.selected collection namespaceName (Selector.ofQuery request.target.query)
    (.answer 200 (.document (.obj [("items", .arr found)])), store)
  | some (.one key), .get => (store.serveRead key, store)
  | some (.one key), .put => store.serveChange key fun _ => body
  | some (.status key), .put => store.serveChange key (withStatusOf body)
  | _, _ => (unknownObject, store)

end ObjectStore

/-!
### Servers with faults
-/

/-- An outcome that is given instead of serving one request of a method on a collection. -/
structure Fault where
  method : Method
  collection : String
  outcome : Outcome
deriving Repr, Inhabited

/-- A store, and the faults that are still to come, in order. -/
structure Cluster where
  store : ObjectStore := {}
  faults : List Fault := []
deriving Repr, Inhabited

namespace Cluster

/-- The first fault for a method and a collection, and the other faults. -/
def takeFault? (method : Method) (collection : String) : List Fault → Option (Outcome × List Fault)
  | [] => none
  | fault :: rest =>
    if fault.method = method ∧ fault.collection = collection then some (fault.outcome, rest)
    else (takeFault? method collection rest).map fun found => (found.1, fault :: found.2)

/-- The outcome of a request, and the cluster afterwards. -/
def answer (cluster : Cluster) (request : Request) : Outcome × Cluster :=
  let fault? := (Place.ofPath? request.target.path).bind fun place =>
    takeFault? request.method place.collection cluster.faults
  match fault? with
  | some (outcome, faults) => (outcome, { cluster with faults })
  | none =>
    let (outcome, store) := cluster.store.serve request
    (outcome, { cluster with store })

/-- The key of an instance. -/
def nginxKey (namespaceName name : String) : ObjectKey :=
  ⟨Nginx.plural, namespaceName, name⟩

/-- Stores an instance as a user declares it; a status that was recorded is kept. -/
def apply (cluster : Cluster) (resource : Json) : Cluster :=
  let text (key : String) := (Json.metadataText? key resource).getD ""
  let key := nginxKey (text "namespace") (text "name")
  let recorded := ((cluster.store.get? key).bind (Json.member? "status")).getD .null
  let object := if recorded = .null then resource else Json.setMember "status" recorded resource
  { cluster with store := cluster.store.put key object }

end Cluster

end NginxFleet
