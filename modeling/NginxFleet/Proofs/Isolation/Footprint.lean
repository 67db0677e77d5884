/-
Module: NginxFleet.Proofs.Isolation.Footprint
Layer: Proofs
Purpose: The objects that handling an instance may touch. They are its deployment, its service and the
  instance itself, so two instances of different places share none of them, and every object that no
  request of a run is about is left as it is.
Main exports: Request.key?, Nginx.keys, Nginx.disjoint_keys, Nginx.handling,
  Nginx.mem_keys_of_touches, Nginx.handling_frame, Nginx.podList_handling
-/
import NginxFleet.Proofs.Protocol.Walk
import NginxFleet.Proofs.Server.Fault

namespace NginxFleet

/-!
### The keys of requests
-/

/-- The key of the object that a request creates, reads by name or replaces, itself or its status. -/
def Request.key? (request : Request) : Option ObjectKey :=
  match Place.ofPath? request.target.path, request.method with
  | some (.one key), _ => some key
  | some (.status key), _ => some key
  | some (.all collection namespaceName), .post =>
    some ⟨collection, namespaceName, ((request.body.getD .null).metadataText? "name").getD ""⟩
  | _, _ => none

/-- The key of the object that a call is about, if it is about one. -/
def Call.key? (nginx : Nginx) : Call → Option ObjectKey
  | .createDeployment | .fetchDeployment | .replaceDeployment _ => some nginx.deploymentKey
  | .createService => some nginx.serviceKey
  | .recordPods _ => some nginx.storeKey
  | .listPods => none

/-- The keys of the objects that handling an instance is about. -/
def Nginx.keys (nginx : Nginx) : List ObjectKey :=
  [nginx.deploymentKey, nginx.serviceKey, nginx.storeKey]

section Keys

variable {nginx other : Nginx}

theorem Call.key?_sent (admissible : nginx.Admissible) (call : Call) :
    (call.sent nginx).key? = call.key? nginx := by
  have place := ofPath?_sent admissible call
  unfold Request.key?
  rw [place]
  cases call with
  | createDeployment =>
      show some (⟨_, _, ((nginx.desiredDeployment.toJson.received.metadataText? "name").getD "")⟩ :
        ObjectKey) = _
      rw [name_desiredDeployment]
      rfl
  | createService =>
      show some (⟨_, _, ((nginx.desiredService.toJson.received.metadataText? "name").getD "")⟩ :
        ObjectKey) = _
      rw [name_desiredService]
      rfl
  | fetchDeployment | replaceDeployment | listPods | recordPods => rfl

theorem Call.key?_mem_keys {call : Call} {key : ObjectKey} (about : call.key? nginx = some key) :
    key ∈ nginx.keys := by
  cases call with
  | listPods => cases about
  | createDeployment | fetchDeployment | replaceDeployment | createService | recordPods =>
      cases about
      simp [Nginx.keys]

/-- A call writes only the object that it is about. -/
theorem Call.key?_of_written? {call : Call} {key : ObjectKey}
    (written : call.written? nginx = some key) : call.key? nginx = some key := by
  cases call with
  | fetchDeployment | listPods => cases written
  | createDeployment | replaceDeployment | createService | recordPods => exact written

theorem Nginx.serviceKey_inj : nginx.serviceKey = other.serviceKey ↔
    nginx.namespaceName = other.namespaceName ∧ nginx.name = other.name := by
  simp [serviceKey, serviceName, String.append_left_inj]

theorem Nginx.storeKey_inj : nginx.storeKey = other.storeKey ↔
    nginx.namespaceName = other.namespaceName ∧ nginx.name = other.name := by
  simp [storeKey, Cluster.nginxKey]

/-- The objects of an instance are of three collections, none of which is that of the pods. -/
theorem Nginx.collection_of_mem_keys {key : ObjectKey} (own : key ∈ nginx.keys) :
    key.collection ≠ "pods" := by
  simp only [keys, List.mem_cons, List.not_mem_nil, or_false] at own
  rcases own with rfl | rfl | rfl
  · simp [deploymentKey]
  · simp [serviceKey]
  · simp [storeKey, Cluster.nginxKey, plural]

/-- Instances of different places have no object in common, even if the name of one is that of an
    object of the other. -/
theorem Nginx.disjoint_keys
    (apart : (nginx.namespaceName, nginx.name) ≠ (other.namespaceName, other.name)) :
    ∀ key ∈ nginx.keys, key ∉ other.keys := by
  have different : ¬ (nginx.namespaceName = other.namespaceName ∧ nginx.name = other.name) := by
    simpa using apart
  intro key own shared
  simp only [keys, List.mem_cons, List.not_mem_nil, or_false] at own shared
  rcases own with rfl | rfl | rfl <;> rcases shared with same | same | same
  · exact different (deploymentKey_inj.mp same)
  · simp [deploymentKey, serviceKey] at same
  · simp [deploymentKey, storeKey, Cluster.nginxKey, plural] at same
  · simp [serviceKey, deploymentKey] at same
  · exact different (serviceKey_inj.mp same)
  · simp [serviceKey, storeKey, Cluster.nginxKey, plural] at same
  · simp [storeKey, Cluster.nginxKey, plural, deploymentKey] at same
  · simp [storeKey, Cluster.nginxKey, plural, serviceKey] at same
  · exact different (storeKey_inj.mp same)

end Keys

/-!
### Runs
-/

section Runs

variable {nginx : Nginx} {finished : ObjectKey → Json → Json → Prop}

/-- A walk leaves every object that none of its calls is about. -/
theorem Handles.frame {scope : Call → Bool} {call : Call} {store final : ObjectStore}
    {records : List CallRecord} {result : Except OperatorError Unit} {key : ObjectKey}
    (admissible : nginx.Admissible)
    (walk : Handles (Serves finished) nginx scope store call records result final)
    (untouched : ∀ record ∈ records, record.call.key? nginx ≠ some key) :
    final.get? key = store.get? key := by
  have step : ∀ {store next : ObjectStore} {record : CallRecord},
      Performs (Serves finished) nginx store record next → record.call.key? nginx ≠ some key →
        next.get? key = store.get? key := by
    intro store next record performed other
    obtain ⟨finish, -, effect⟩ := performed.effect admissible
    have frame : (record.call.effect finish nginx store).2.get? key = store.get? key :=
      Call.effect_frame (mt Call.key?_of_written? other)
    rw [effect] at frame
    exact frame
  induction walk with
  | failed performed failure => exact step performed (untouched _ List.mem_cons_self)
  | ended performed passed last => exact step performed (untouched _ List.mem_cons_self)
  | continued performed passed more rest ih =>
      rw [ih fun record member => untouched record (List.mem_cons_of_mem _ member)]
      exact step performed (untouched _ List.mem_cons_self)

variable {σ : Type} {answer : σ → Request → Outcome × σ} {view : σ → ObjectStore}

/-- What happens when a notification about an instance is handled, whether it is deleted or not. -/
def Nginx.handling (nginx : Nginx) (deleted : Bool) (answer : σ → Request → Outcome × σ)
    (state : σ) : Transcript (Except OperatorError Unit) σ :=
  (dispatch { object := .nginx nginx, deleted }).run answer state

/-- A request of a run creates, reads by name or replaces an object. -/
def Transcript.Touches {α : Type} (transcript : Transcript α σ) (key : ObjectKey) : Prop :=
  ∃ request ∈ transcript.requests, request.key? = some key

/-- A run touches objects of its instance only. -/
theorem Nginx.mem_keys_of_touches (admissible : nginx.Admissible) {deleted : Bool} {state : σ}
    {key : ObjectKey} (touched : (nginx.handling deleted answer state).Touches key) :
    key ∈ nginx.keys := by
  obtain ⟨request, sent, about⟩ := touched
  cases deleted with
  | true => cases sent
  | false =>
      obtain ⟨records, walk, exchanges⟩ := dispatch_walks answer nginx state
      rw [handling, Transcript.requests, exchanges, walk.requests_eq admissible] at sent
      obtain ⟨record, -, rfl⟩ := List.mem_map.mp sent
      rw [Call.key?_sent admissible] at about
      exact Call.key?_mem_keys about

/-- A run leaves every object that it does not touch. -/
theorem Nginx.handling_frame (serves : Through (Serves finished) view answer)
    (admissible : nginx.Admissible) {deleted : Bool} {state : σ} {key : ObjectKey}
    (untouched : ¬ (nginx.handling deleted answer state).Touches key) :
    (view (nginx.handling deleted answer state).state).get? key = (view state).get? key := by
  cases deleted with
  | true => rfl
  | false =>
      obtain ⟨records, walk, exchanges⟩ := dispatch_walks answer nginx state
      apply (serves.handles walk).frame admissible
      intro record member about
      apply untouched
      refine ⟨record.call.sent nginx, ?_, by rw [Call.key?_sent admissible, about]⟩
      rw [handling, Transcript.requests, exchanges, walk.requests_eq admissible]
      exact List.mem_map_of_mem member

/-- A run leaves every object that is not of its instance. -/
theorem Nginx.get?_handling (serves : Through (Serves finished) view answer)
    (admissible : nginx.Admissible) {deleted : Bool} {state : σ} {key : ObjectKey}
    (foreign : key ∉ nginx.keys) :
    (view (nginx.handling deleted answer state).state).get? key = (view state).get? key :=
  handling_frame serves admissible (mt (mem_keys_of_touches admissible) foreign)

/-- A run leaves the pods, also those of other instances. -/
theorem Nginx.podList_handling (serves : Through (Serves finished) view answer)
    (admissible : nginx.Admissible) {other : Nginx} {deleted : Bool} {state : σ} :
    other.podList (view (nginx.handling deleted answer state).state) =
      other.podList (view state) := by
  apply podList_congr
  intro name
  exact get?_handling serves admissible fun own => collection_of_mem_keys own rfl

end Runs

end NginxFleet
