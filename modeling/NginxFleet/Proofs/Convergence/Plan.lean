/-
Module: NginxFleet.Proofs.Convergence.Plan
Layer: Proofs
Purpose: What handling an instance is to make of a store, key by key. The plan is fixed by the store at
  the start: the deployment is created or repaired, the service created, the status recorded, each
  only if need be, and every other key is left alone. While the plan is carried out, each key is
  as it was or done; what is under a key that is done can be read, and asks for nothing more.
Main exports: Nginx.StoredIn, Nginx.ReadableIn, Nginx.plan, Keeps, Done, Progress, Progress.put,
  driftedStore
-/
import NginxFleet.Proofs.Convergence.Demand
import NginxFleet.Proofs.Reconcile.Repair

namespace NginxFleet

open Json

/-!
### What a store must hold
-/

namespace Nginx

/-- A store holds an instance: an object that is read as this instance. -/
def StoredIn (nginx : Nginx) (store : ObjectStore) : Prop :=
  ∃ members, store.get? nginx.storeKey = some (.obj members) ∧
    ofJson? (Json.obj members).received = some nginx

/-- A store holds an instance, and the other objects that handling it reads can be read. -/
structure ReadableIn (nginx : Nginx) (store : ObjectStore) : Prop where
  stored : nginx.StoredIn store
  deployment : ∀ document, store.get? nginx.deploymentKey = some document →
    (Deployment.ofJson? document.received).isSome
  pods : ∀ name document, store.get? ⟨"pods", nginx.namespaceName, name⟩ = some document →
    (Pod.ofJson? document.received).isSome

end Nginx

theorem Pod.isSome_listOfJson? {items : List Json}
    (readable : ∀ item ∈ items, (ofJson? item.received).isSome) :
    (listOfJson? (Json.obj [("items", .arr items)]).received).isSome := by
  have all : (readAll ofJson? (itemsReceived items)).isSome := by
    apply readAll_isSome
    intro item found
    rw [itemsReceived_eq_map] at found
    obtain ⟨sent, among, rfl⟩ := List.mem_map.mp found
    exact readable sent among
  obtain ⟨pods, reading⟩ := Option.isSome_iff_exists.mp all
  simp [listOfJson?, received, membersReceived, strictMembers, listFields, occurrences, orMissing,
    required, readNullable, readList, reading, membersReadable]

namespace Nginx

/-- The pods of an instance in a store, as they are to be recorded. -/
def podsIn (nginx : Nginx) (store : ObjectStore) : List PodEntry :=
  observedPods ((Pod.listOfJson? (nginx.podList store).received).getD [])

theorem ReadableIn.isSome_podList {nginx : Nginx} {store : ObjectStore}
    (readable : nginx.ReadableIn store) :
    (Pod.listOfJson? (nginx.podList store).received).isSome := by
  apply Pod.isSome_listOfJson?
  intro item found
  obtain ⟨entry, among, rfl⟩ := List.mem_map.mp (List.mem_filter.mp found).1
  exact readable.pods entry.1 entry.2 (KeyMap.get?_of_mem among)

/-!
### The plan
-/

/-- What is to be stored as the deployment. -/
def deploymentPlan (nginx : Nginx) (store : ObjectStore) : Option Json :=
  match store.get? nginx.deploymentKey with
  | none => some nginx.desiredDeployment.toJson.received
  | some document =>
    ((Deployment.ofJson? document.received).bind
      (Deployment.repair? · nginx.desiredDeployment)).map fun repaired => repaired.toJson.received

/-- What is to be stored as the service. -/
def servicePlan (nginx : Nginx) (store : ObjectStore) : Option Json :=
  match store.get? nginx.serviceKey with
  | none => some nginx.desiredService.toJson.received
  | some _ => none

/-- What is to be stored as the instance: the one that is there, with the pods recorded. -/
def statusPlan (nginx : Nginx) (store : ObjectStore) : Option Json :=
  if podsChanged (nginx.podsIn store) nginx.storedPods then
    (store.get? nginx.storeKey).map
      (setMember "status" (NginxStatus.toJson { pods := nginx.podsIn store }))
  else none

/-- What is to be stored under a key, nothing if it is to be left alone. -/
def plan (nginx : Nginx) (store : ObjectStore) (key : ObjectKey) : Option Json :=
  if key = nginx.deploymentKey then nginx.deploymentPlan store
  else if key = nginx.serviceKey then nginx.servicePlan store
  else if key = nginx.storeKey then nginx.statusPlan store
  else none

variable (nginx : Nginx) (store : ObjectStore)

theorem plan_deploymentKey :
    nginx.plan store nginx.deploymentKey = nginx.deploymentPlan store := by
  simp [plan]

theorem plan_serviceKey : nginx.plan store nginx.serviceKey = nginx.servicePlan store := by
  simp [plan, serviceKey_ne_deploymentKey]

theorem plan_storeKey : nginx.plan store nginx.storeKey = nginx.statusPlan store := by
  simp [plan, storeKey_ne_deploymentKey, storeKey_ne_serviceKey]

theorem plan_eq_none {key : ObjectKey} (deployment : key ≠ nginx.deploymentKey)
    (service : key ≠ nginx.serviceKey) (stored : key ≠ nginx.storeKey) :
    nginx.plan store key = none := by
  simp [plan, deployment, service, stored]

/-- The pods of a store are left alone. -/
theorem plan_pods (name : String) :
    nginx.plan store ⟨"pods", nginx.namespaceName, name⟩ = none := by
  refine nginx.plan_eq_none store ?_ ?_ ?_ <;>
    simp [deploymentKey, serviceKey, storeKey, Cluster.nginxKey, plural]

end Nginx

/-!
### How far the plan is carried out
-/

section Progress

variable (finished : ObjectKey → Json → Json → Prop) (nginx : Nginx) (start : ObjectStore)

/-- What is under a key is as planned. -/
def Done (store : ObjectStore) (key : ObjectKey) : Prop :=
  match nginx.plan start key with
  | none => store.get? key = start.get? key
  | some body => ∃ document, store.get? key = some document ∧ finished key body document

/-- What is under each key is as it was or as planned. -/
def Progress (store : ObjectStore) : Prop :=
  ∀ key, store.get? key = start.get? key ∨ Done finished nginx start store key

end Progress

section Progress

variable {finished : ObjectKey → Json → Json → Prop} {nginx : Nginx} {start store : ObjectStore}
  {key other : ObjectKey} {body document : Json}

theorem Done.of_plan_none (planned : nginx.plan start key = none) :
    Done finished nginx start store key ↔ store.get? key = start.get? key := by
  simp [Done, planned]

theorem Done.of_plan_some (planned : nginx.plan start key = some body) :
    Done finished nginx start store key ↔
      ∃ document, store.get? key = some document ∧ finished key body document := by
  simp [Done, planned]

/-- Whether a key is done can be seen under the key. -/
theorem Done.congr {later : ObjectStore} (same : later.get? key = store.get? key)
    (done : Done finished nginx start store key) : Done finished nginx start later key := by
  unfold Done at done ⊢
  rw [same]
  exact done

theorem Done.put (planned : nginx.plan start key = some body)
    (allowed : finished key body document) :
    Done finished nginx start (store.put key document) key := by
  refine (Done.of_plan_some planned).mpr ⟨document, ?_, allowed⟩
  rw [ObjectStore.get?_put, if_pos rfl]

theorem Done.put_of_ne (different : other ≠ key) (done : Done finished nginx start store other) :
    Done finished nginx start (store.put key document) other := by
  apply done.congr
  rw [ObjectStore.get?_put, if_neg different]

namespace Progress

theorem refl (finished : ObjectKey → Json → Json → Prop) (nginx : Nginx) (start : ObjectStore) :
    Progress finished nginx start start :=
  fun _ => .inl rfl

theorem put (progress : Progress finished nginx start store)
    (planned : nginx.plan start key = some body) (allowed : finished key body document) :
    Progress finished nginx start (store.put key document) := by
  intro target
  by_cases same : target = key
  · subst same
    exact .inr (Done.put planned allowed)
  · rcases progress target with untouched | done
    · refine .inl ?_
      rw [ObjectStore.get?_put, if_neg same, untouched]
    · exact .inr (done.put_of_ne same)

/-- A key that is left alone is done. -/
theorem done_of_plan_none (progress : Progress finished nginx start store)
    (planned : nginx.plan start key = none) : Done finished nginx start store key := by
  rcases progress key with untouched | done
  · exact (Done.of_plan_none planned).mpr untouched
  · exact done

/-- A key under which there is something that was not planned was like that at the start. -/
theorem untouched_or_planned (progress : Progress finished nginx start store)
    (found : store.get? key = some document) :
    start.get? key = some document ∨
      ∃ body, nginx.plan start key = some body ∧ finished key body document := by
  rcases progress key with untouched | done
  · exact .inl (untouched ▸ found)
  · cases planned : nginx.plan start key with
    | none =>
        rw [Done.of_plan_none planned] at done
        exact .inl (done ▸ found)
    | some body =>
        obtain ⟨stored, held, allowed⟩ := (Done.of_plan_some planned).mp done
        rw [found] at held
        cases held
        exact .inr ⟨body, rfl, allowed⟩

/-- A free key was free at the start. -/
theorem free_at_start (progress : Progress finished nginx start store)
    (free : store.get? key = none) : start.get? key = none := by
  rcases progress key with untouched | done
  · exact untouched ▸ free
  · cases planned : nginx.plan start key with
    | none =>
        rw [Done.of_plan_none planned] at done
        exact done ▸ free
    | some body =>
        obtain ⟨stored, held, -⟩ := (Done.of_plan_some planned).mp done
        rw [free] at held
        cases held

theorem podList_eq (progress : Progress finished nginx start store) :
    nginx.podList store = nginx.podList start := by
  apply Nginx.podList_congr
  intro name
  have planned := nginx.plan_pods start name
  exact (Done.of_plan_none planned).mp (progress.done_of_plan_none planned)

end Progress

end Progress

/-!
### What a server keeps

A server that finishes documents leaves in them what the operator looks at.
-/

/-- What a server stores for an instance is read as what was sent, as far as the operator sees. -/
structure Keeps (finished : ObjectKey → Json → Json → Prop) (nginx : Nginx) : Prop where
  deployment : ∀ (sent : Deployment) (document : Json), sent.Sendable → sent.InLine nginx →
    finished nginx.deploymentKey sent.toJson.received document →
      ∃ kept, Deployment.ofJson? document.received = some kept ∧
        kept.ownedFields = nginx.desiredDeployment.ownedFields
  service : ∀ document,
    finished nginx.serviceKey nginx.desiredService.toJson.received document →
      (Service.ofJson? document.received).isSome
  recorded : ∀ (members : List (String × Json)) (pods : List PodEntry) (document : Json),
    Nginx.ofJson? (Json.obj members).received = some nginx →
    finished nginx.storeKey (setMember "status" (NginxStatus.toJson { pods }) (.obj members))
      document →
      ∃ fields snapshot, document = .obj fields ∧ Nginx.ofJson? document.received = some snapshot ∧
        snapshot.Renews nginx ∧ snapshot.storedPods = pods

/-!
### A store to start from
-/

/-- An instance, as a user declares it. -/
def declaredNginx : Nginx where
  metadata := { name := some "web", namespaceName := some "default", uid := some "u1" }
  spec := { replicas := some 2 }

/-- A store with the instance, a pod of it and a deployment of other content under its name. -/
def driftedStore : ObjectStore :=
  let declared : Json := .obj [
    ("metadata", .obj [("name", .str "web"), ("namespace", .str "default"), ("uid", .str "u1")]),
    ("spec", .obj [("replicas", .int 2)])]
  let pod : Json := .obj [
    ("metadata", .obj [("name", .str "web-1"),
      ("labels", .obj [(appKey, .str appValue), (instanceKey, .str "web")])]),
    ("status", .obj [("podIP", .str "10.0.0.1")])]
  let foreign : Json := .obj [
    ("metadata", .obj [("resourceVersion", .str "7")]), ("spec", .obj [("replicas", .int 7)])]
  ((ObjectStore.put {} declaredNginx.storeKey declared).put ⟨"pods", "default", "web-1"⟩ pod).put
    declaredNginx.deploymentKey foreign

theorem admissible_declaredNginx : declaredNginx.Admissible where
  name := ⟨"web", rfl, by decide, by decide⟩
  namespaceName := ⟨"default", rfl, by decide, by decide⟩

theorem readableIn_driftedStore : declaredNginx.ReadableIn driftedStore where
  stored := by
    refine ⟨_, rfl, ?_⟩
    decide
  deployment := by
    intro document found
    have foreign : driftedStore.get? declaredNginx.deploymentKey = some (.obj [
      ("metadata", .obj [("resourceVersion", .str "7")]),
      ("spec", .obj [("replicas", .int 7)])]) := rfl
    rw [foreign] at found
    cases found
    decide
  pods := by
    intro name document found
    simp only [driftedStore, ObjectStore.get?_put] at found
    rw [if_neg (by simp [Nginx.deploymentKey])] at found
    split at found
    · cases found
      decide
    · rw [if_neg (by simp [Nginx.storeKey, Cluster.nginxKey, Nginx.plural])] at found
      cases found

end NginxFleet
