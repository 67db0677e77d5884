/-
Module: NginxFleet.Proofs.Isolation.Lockstep
Layer: Proofs
Purpose: Two runs for one instance go hand in hand if they begin with the same objects of the instance
  and the same pods, whatever else the stores hold and whichever versions the server gives. They make
  the same calls, end with the same result, and leave objects that differ in their versions only.
  Since handling another instance changes none of these objects, two instances may be handled in
  either order.
Main exports: StoredAs, Restamps, Alike, Call.lockstep, Handles.lockstep,
  Nginx.handling_lockstep, instances_do_not_interfere
-/
import NginxFleet.Proofs.Isolation.Footprint
import NginxFleet.Proofs.Reconcile.Versions
import NginxFleet.Proofs.Rollout.Settled

namespace NginxFleet

/-!
### Versions
-/

/-- How a server stores documents: as they come, or each with a version of the server's choice. -/
def StoredAs (numbering : Bool) (_ : ObjectKey) (body document : Json) : Prop :=
  if numbering then ∃ version, document = body.withVersion version else document = body

/-- One document is another, or the same with another version if the server gives any. -/
def Restamps (numbering : Bool) (document other : Json) : Prop :=
  other = document ∨ numbering ∧ ∃ version, other = document.withVersion version

section Versions

variable {numbering : Bool} {key : ObjectKey} {body document other : Json}

theorem Restamps.rel_refl (held : Option Json) : Option.Rel (Restamps numbering) held held := by
  cases held with
  | none => exact .none
  | some document => exact .some (.inl rfl)

theorem StoredAs.stamps (stored : StoredAs numbering key body document) :
    Stamps key body document := by
  cases numbering with
  | true => exact .inr stored
  | false => exact .inl stored

/-- What one server stores for one body at two times differs in the version only. -/
theorem StoredAs.restamps (first : StoredAs numbering key body document)
    (second : StoredAs numbering key body other) : Restamps numbering document other := by
  cases numbering with
  | true =>
      obtain ⟨version, rfl⟩ := first
      obtain ⟨later, rfl⟩ := second
      exact .inr ⟨rfl, later, (Json.withVersion_withVersion version later body).symm⟩
  | false =>
      cases first
      cases second
      exact .inl rfl

/-- Whether an instance can be read in a document does not depend on a version that it was given. -/
theorem Nginx.isSome_stored (first : StoredAs numbering key body document)
    (second : StoredAs numbering key body other) :
    (ofJson? document.received).isSome = (ofJson? other.received).isSome := by
  have readable : ∀ {version later : String}, (ofJson? (body.withVersion version).received).isSome →
      (ofJson? (body.withVersion later).received).isSome := by
    intro version later reads
    obtain ⟨nginx, reading⟩ := Option.isSome_iff_exists.mp reads
    rw [Json.received_withVersion] at reading ⊢
    cases given : body.received with
    | obj members =>
        rw [given] at reading
        rw [← Json.withVersion_withVersion version]
        exact Option.isSome_of_eq_some (ofJson?_withVersion later reading)
    | _ =>
        rw [given] at reading
        exact Option.isSome_of_eq_some reading
  cases numbering with
  | true =>
      obtain ⟨version, rfl⟩ := first
      obtain ⟨later, rfl⟩ := second
      exact Bool.eq_iff_iff.mpr ⟨readable, readable⟩
  | false =>
      cases first
      cases second
      rfl

end Versions

/-!
### Two stores, one instance
-/

/-- Two stores hold the same pods of an instance, the same objects where they are still to be read, and
    its other objects aside from their versions. -/
structure Alike (numbering : Bool) (nginx : Nginx) (unread : List ObjectKey)
    (store other : ObjectStore) : Prop where
  same : ∀ key ∈ unread, store.get? key = other.get? key
  pods : nginx.podList store = nginx.podList other
  kept : ∀ key ∈ nginx.keys, Option.Rel (Restamps numbering) (store.get? key) (other.get? key)

/-- The keys of the objects that a call, or one that comes after it, may read. -/
def Call.unread (nginx : Nginx) : Call → List ObjectKey
  | .createDeployment | .fetchDeployment | .replaceDeployment _ => nginx.keys
  | .createService => [nginx.serviceKey, nginx.storeKey]
  | .listPods | .recordPods _ => [nginx.storeKey]

/-- Two stores are alike for all that comes from a point on. -/
def Point.Alike (numbering : Bool) (nginx : Nginx) (store other : ObjectStore) : Point → Prop
  | .pending call => NginxFleet.Alike numbering nginx (call.unread nginx) store other ∧
      ∀ repaired, call = .replaceDeployment repaired → repaired.Sendable
  | .ended _ => NginxFleet.Alike numbering nginx [] store other

section Alike

variable {numbering : Bool} {nginx : Nginx} {store other : ObjectStore} {keys : List ObjectKey}

theorem Alike.mono {fewer : List ObjectKey} (alike : Alike numbering nginx keys store other)
    (among : ∀ key ∈ fewer, key ∈ keys) : Alike numbering nginx fewer store other where
  same := fun key unread => alike.same key (among key unread)
  pods := alike.pods
  kept := alike.kept

theorem Nginx.podList_put {key : ObjectKey} (own : key ∈ nginx.keys) (document : Json) :
    nginx.podList (store.put key document) = nginx.podList store := by
  apply podList_congr
  intro name
  rw [ObjectStore.get?_put, if_neg]
  rintro rfl
  exact collection_of_mem_keys own rfl

/-- Writing an object of the instance that is not read any more keeps stores alike, if what is written
    differs in the version only. -/
theorem Alike.put {fewer : List ObjectKey} {key : ObjectKey} {document altered : Json}
    (alike : Alike numbering nginx keys store other) (own : key ∈ nginx.keys)
    (restamps : Restamps numbering document altered)
    (among : ∀ unread ∈ fewer, unread ∈ keys ∧ unread ≠ key) :
    Alike numbering nginx fewer (store.put key document) (other.put key altered) where
  same := by
    intro target unread
    obtain ⟨before, apart⟩ := among target unread
    simp only [ObjectStore.get?_put, if_neg apart]
    exact alike.same target before
  pods := by
    rw [Nginx.podList_put own, Nginx.podList_put own]
    exact alike.pods
  kept := by
    intro target mine
    simp only [ObjectStore.get?_put]
    split
    · rename_i same
      subst same
      exact .some restamps
    · exact alike.kept target mine

end Alike

/-!
### One call

Each call reads the same in both stores, or what it reads does not matter but for whether it can be
read.
-/

/-- A call on two stores, whose server may finish documents in two ways, leads to the same point, and
    leaves stores that are alike for all that comes from there on. -/
structure Call.Lockstep (numbering : Bool) (nginx : Nginx)
    (finish complete : ObjectKey → Json → Json) (store other : ObjectStore) (call : Call) :
    Prop where
  point : call.after Call.any nginx (call.effect finish nginx store).1 =
    call.after Call.any nginx (call.effect complete nginx other).1
  alike : (call.after Call.any nginx (call.effect finish nginx store).1).Alike numbering nginx
    (call.effect finish nginx store).2 (call.effect complete nginx other).2

section Calls

variable {nginx : Nginx} {numbering : Bool} {finish complete : ObjectKey → Json → Json}
  {store other : ObjectStore}

theorem Call.Lockstep.of_effects {call : Call} {reply answered : Except ClientError Reply}
    {next later : ObjectStore} (point : Point)
    (left : call.effect finish nginx store = (reply, next))
    (right : call.effect complete nginx other = (answered, later))
    (leads : call.after Call.any nginx reply = point)
    (follows : call.after Call.any nginx answered = point)
    (alike : point.Alike numbering nginx next later) :
    call.Lockstep numbering nginx finish complete store other where
  point := by rw [left, right, leads, follows]
  alike := by
    rw [left, right, leads]
    exact alike

/-- What was stored for a deployment that was sent can be read. -/
theorem readDocument_deployment {key : ObjectKey} {sent : Deployment} {document : Json}
    (sendable : sent.Sendable) (stored : StoredAs numbering key sent.toJson.received document) :
    ∃ kept, readDocument Deployment.ofJson? document = .ok kept := by
  obtain ⟨kept, -, reading, -⟩ := Deployment.ofJson?_stamped sendable stored.stamps
  exact ⟨kept, by rw [readDocument, reading]⟩

/-- What was stored for the service of an instance can be read. -/
theorem readDocument_service {key : ObjectKey} {document : Json}
    (stored : StoredAs numbering key nginx.desiredService.toJson.received document) :
    ∃ kept, readDocument Service.ofJson? document = .ok kept := by
  obtain ⟨kept, -, reading, -⟩ := Service.ofJson?_stamped stored.stamps
  exact ⟨kept, by rw [readDocument, reading]⟩

variable (first : ∀ key body, StoredAs numbering key body (finish key body))
  (second : ∀ key body, StoredAs numbering key body (complete key body))

include first second

/-- Once a deployment is written, the stores are alike for the calls about the service and the status. -/
theorem Alike.put_deployment (alike : Alike numbering nginx nginx.keys store other) {body : Json} :
    (Point.pending .createService).Alike numbering nginx
      (store.put nginx.deploymentKey (finish nginx.deploymentKey body))
      (other.put nginx.deploymentKey (complete nginx.deploymentKey body)) := by
  refine ⟨?_, fun _ replaced => by cases replaced⟩
  refine alike.put (by simp [Nginx.keys]) ((first _ _).restamps (second _ _)) ?_
  simp [Call.unread, Nginx.keys, Nginx.serviceKey_ne_deploymentKey,
    Nginx.storeKey_ne_deploymentKey]

/-- A call that writes a deployment which can be sent is followed by the one for the service. -/
theorem Call.Lockstep.of_stored {call : Call} {sent : Deployment} (sendable : sent.Sendable)
    (alike : Alike numbering nginx nginx.keys store other)
    (left : call.effect finish nginx store =
      ((readDocument Deployment.ofJson? (finish nginx.deploymentKey sent.toJson.received)).map
          .deployment,
        store.put nginx.deploymentKey (finish nginx.deploymentKey sent.toJson.received)))
    (right : call.effect complete nginx other =
      ((readDocument Deployment.ofJson? (complete nginx.deploymentKey sent.toJson.received)).map
          .deployment,
        other.put nginx.deploymentKey (complete nginx.deploymentKey sent.toJson.received)))
    (leads : ∀ kept, call.after Call.any nginx (.ok (.deployment kept)) =
      .pending .createService) :
    call.Lockstep numbering nginx finish complete store other := by
  obtain ⟨kept, reading⟩ := readDocument_deployment sendable (first nginx.deploymentKey _)
  obtain ⟨others, reads⟩ := readDocument_deployment sendable (second nginx.deploymentKey _)
  rw [reading] at left
  rw [reads] at right
  exact .of_effects (.pending .createService) left right (leads kept) (leads others)
    (alike.put_deployment first second)

theorem Call.lockstep_createDeployment (alike : Alike numbering nginx nginx.keys store other) :
    Call.createDeployment.Lockstep numbering nginx finish complete store other := by
  have same := alike.same nginx.deploymentKey (by simp [Nginx.keys])
  cases found : store.get? nginx.deploymentKey with
  | some document =>
      rw [found] at same
      exact .of_effects (.pending .fetchDeployment) (by simp only [effect, found]; rfl)
        (by simp only [effect, ← same]; rfl) rfl rfl ⟨alike, fun _ replaced => by cases replaced⟩
  | none =>
      rw [found] at same
      exact .of_stored first second nginx.sendable_desiredDeployment alike
        (by simp only [effect, found]) (by simp only [effect, ← same]) fun _ => rfl

theorem Call.lockstep_replaceDeployment {repaired : Deployment} (sendable : repaired.Sendable)
    (alike : Alike numbering nginx nginx.keys store other) :
    (Call.replaceDeployment repaired).Lockstep numbering nginx finish complete store other := by
  have same := alike.same nginx.deploymentKey (by simp [Nginx.keys])
  cases found : store.get? nginx.deploymentKey with
  | none =>
      rw [found] at same
      exact .of_effects (.ended (.error (.update .deployment (missing nginx.deploymentKey))))
        (by simp only [effect, found]; rfl) (by simp only [effect, ← same]; rfl) rfl rfl
        (alike.mono (by simp))
  | some document =>
      rw [found] at same
      exact .of_stored first second sendable alike
        (by simp only [effect, found]) (by simp only [effect, ← same]) fun _ => rfl

theorem Call.lockstep_createService
    (alike : Alike numbering nginx [nginx.serviceKey, nginx.storeKey] store other) :
    Call.createService.Lockstep numbering nginx finish complete store other := by
  have same := alike.same nginx.serviceKey (by simp)
  cases found : store.get? nginx.serviceKey with
  | some document =>
      rw [found] at same
      exact .of_effects (.pending .listPods) (by simp only [effect, found]; rfl)
        (by simp only [effect, ← same]; rfl) rfl rfl
        ⟨alike.mono (by simp [unread]), fun _ replaced => by cases replaced⟩
  | none =>
      rw [found] at same
      obtain ⟨kept, reading⟩ := readDocument_service (first nginx.serviceKey
        nginx.desiredService.toJson.received)
      obtain ⟨others, reads⟩ := readDocument_service (second nginx.serviceKey
        nginx.desiredService.toJson.received)
      refine .of_effects (.pending .listPods) (by simp only [effect, found, reading]; rfl)
        (by simp only [effect, ← same, reads]; rfl) rfl rfl
        ⟨?_, fun _ replaced => by cases replaced⟩
      refine alike.put (by simp [Nginx.keys]) ((first _ _).restamps (second _ _)) ?_
      simp [unread, Nginx.storeKey_ne_serviceKey]

theorem Call.lockstep_recordPods {pods : List PodEntry}
    (alike : Alike numbering nginx [nginx.storeKey] store other) :
    (Call.recordPods pods).Lockstep numbering nginx finish complete store other := by
  have same := alike.same nginx.storeKey (by simp)
  cases found : store.get? nginx.storeKey with
  | none =>
      rw [found] at same
      exact .of_effects (.ended (.error (.updateStatus (missing nginx.storeKey))))
        (by simp only [effect, found]; rfl) (by simp only [effect, ← same]; rfl) rfl rfl
        (alike.mono (by simp))
  | some object =>
      rw [found] at same
      have written := first nginx.storeKey
        (Json.setMember "status" (NginxStatus.toJson { pods }) object)
      have rewritten := second nginx.storeKey
        (Json.setMember "status" (NginxStatus.toJson { pods }) object)
      have later : NginxFleet.Alike numbering nginx []
          (store.put nginx.storeKey (finish nginx.storeKey _))
          (other.put nginx.storeKey (complete nginx.storeKey _)) :=
        alike.put (by simp [Nginx.keys]) (written.restamps rewritten) (by simp)
      have readable := Nginx.isSome_stored written rewritten
      cases reading : Nginx.ofJson? (finish nginx.storeKey
          (Json.setMember "status" (NginxStatus.toJson { pods }) object)).received with
      | none =>
          rw [reading] at readable
          have reads := Option.isSome_eq_false_iff.mp readable.symm
          rw [Option.isNone_iff_eq_none] at reads
          exact .of_effects (.ended (.error (.updateStatus .unreadable)))
            (by simp only [effect, found, readDocument, reading]; rfl)
            (by simp only [effect, ← same, readDocument, reads]; rfl) rfl rfl later
      | some recorded =>
          rw [reading] at readable
          obtain ⟨others, reads⟩ := Option.isSome_iff_exists.mp readable.symm
          exact .of_effects (.ended (.ok ()))
            (by simp only [effect, found, readDocument, reading]; rfl)
            (by simp only [effect, ← same, readDocument, reads]; rfl) rfl rfl later

omit first second

/-- Reading the deployment gives the same in both stores. -/
theorem Call.lockstep_fetchDeployment (alike : Alike numbering nginx nginx.keys store other) :
    Call.fetchDeployment.Lockstep numbering nginx finish complete store other := by
  have same := alike.same nginx.deploymentKey (by simp [Nginx.keys])
  have ends : ∀ {result : Except OperatorError Unit},
      (Point.ended result).Alike numbering nginx store other := alike.mono (by simp)
  cases found : store.get? nginx.deploymentKey with
  | none =>
      rw [found] at same
      exact .of_effects (.ended (.error (.retrieve .deployment (missing nginx.deploymentKey))))
        (by simp only [effect, found]; rfl) (by simp only [effect, ← same]; rfl) rfl rfl ends
  | some document =>
      rw [found] at same
      have left : Call.fetchDeployment.effect finish nginx store =
          ((readDocument Deployment.ofJson? document).map .deployment, store) := by
        simp only [effect, found]
      have right : Call.fetchDeployment.effect complete nginx other =
          ((readDocument Deployment.ofJson? document).map .deployment, other) := by
        simp only [effect, ← same]
      refine .of_effects _ left right rfl rfl ?_
      unfold readDocument
      cases reading : Deployment.ofJson? document.received with
      | none => exact ends
      | some existing =>
          simp only [Except.map, after, failure?, followUp?]
          cases repair : existing.repair? nginx.desiredDeployment with
          | none =>
              refine ⟨alike.mono ?_, fun _ replaced => by cases replaced⟩
              simp [unread, Nginx.keys]
          | some repaired =>
              refine ⟨alike, ?_⟩
              rintro _ replaced
              cases replaced
              exact Deployment.sendable_of_repair? reading repair

/-- The list of the pods is the same for both stores. -/
theorem Call.lockstep_listPods (alike : Alike numbering nginx [nginx.storeKey] store other) :
    Call.listPods.Lockstep numbering nginx finish complete store other := by
  have left : Call.listPods.effect finish nginx store =
      ((readDocument Pod.listOfJson? (nginx.podList store)).map .pods, store) := rfl
  have right : Call.listPods.effect complete nginx other =
      ((readDocument Pod.listOfJson? (nginx.podList store)).map .pods, other) := by
    rw [alike.pods]
    rfl
  refine .of_effects _ left right rfl rfl ?_
  unfold readDocument
  cases reading : Pod.listOfJson? (nginx.podList store).received with
  | none => exact alike.mono (by simp)
  | some pods =>
      simp only [Except.map, after, failure?, followUp?]
      split
      · exact ⟨alike, fun _ replaced => by cases replaced⟩
      · exact alike.mono (by simp)

end Calls

/-!
### Runs
-/

section Runs

variable {nginx : Nginx} {numbering : Bool} {store other : ObjectStore}

/-- Every call goes hand in hand on stores that are alike for it. -/
theorem Call.lockstep {finish complete : ObjectKey → Json → Json}
    (first : ∀ key body, StoredAs numbering key body (finish key body))
    (second : ∀ key body, StoredAs numbering key body (complete key body)) {call : Call}
    (alike : (Point.pending call).Alike numbering nginx store other) :
    call.Lockstep numbering nginx finish complete store other := by
  obtain ⟨alike, sendable⟩ := alike
  cases call with
  | createDeployment => exact lockstep_createDeployment first second alike
  | fetchDeployment => exact lockstep_fetchDeployment alike
  | replaceDeployment repaired =>
      exact lockstep_replaceDeployment first second (sendable repaired rfl) alike
  | createService => exact lockstep_createService first second alike
  | listPods => exact lockstep_listPods alike
  | recordPods pods => exact lockstep_recordPods first second alike

/-- Two walks from one call, on stores that are alike for it, end with one result and leave stores that
    are alike. -/
theorem Handles.lockstep {call : Call} {records trail : List CallRecord}
    {result ending : Except OperatorError Unit} {final last : ObjectStore}
    (admissible : nginx.Admissible)
    (walk : Handles (Serves (StoredAs numbering)) nginx Call.any store call records result final)
    (along : Handles (Serves (StoredAs numbering)) nginx Call.any other call trail ending last)
    (alike : (Point.pending call).Alike numbering nginx store other) :
    result = ending ∧ NginxFleet.Alike numbering nginx [] final last := by
  have step : ∀ {store next other : ObjectStore} {record : CallRecord} {trail : List CallRecord},
      Performs (Serves (StoredAs numbering)) nginx store record next →
      Handles (Serves (StoredAs numbering)) nginx Call.any other record.call trail ending last →
      (Point.pending record.call).Alike numbering nginx store other →
      ∃ reached later,
        Walks (Serves (StoredAs numbering)) nginx Call.any reached later ending last
          (record.call.after Call.any nginx record.result) ∧
        (record.call.after Call.any nginx record.result).Alike numbering nginx next reached := by
    intro store next other record trail performed along alike
    obtain ⟨finish, first, effect⟩ := performed.effect admissible
    obtain ⟨complete, second, later, -, rest⟩ := along.head_effect admissible
    obtain ⟨point, kept⟩ := Call.lockstep first second alike
    rw [← point, effect] at rest
    rw [effect] at kept
    exact ⟨_, later, rest, kept⟩
  induction walk generalizing other trail with
  | failed performed failure =>
      obtain ⟨reached, later, rest, kept⟩ := step performed along alike
      rw [CallRecord.after_of_failure failure] at rest kept
      obtain ⟨-, rfl, rfl⟩ := rest
      exact ⟨rfl, kept⟩
  | ended performed passed last =>
      obtain ⟨reached, later, rest, kept⟩ := step performed along alike
      rw [CallRecord.after_of_last passed last] at rest kept
      obtain ⟨-, rfl, rfl⟩ := rest
      exact ⟨rfl, kept⟩
  | continued performed passed more _ ih =>
      obtain ⟨reached, later, rest, kept⟩ := step performed along alike
      rw [CallRecord.after_of_next passed more] at rest kept
      obtain ⟨trail, along, -⟩ := rest
      exact ih along kept

variable {σ : Type} {answer : σ → Request → Outcome × σ} {view : σ → ObjectStore}

/-- A run for an instance depends on the objects of the instance and its pods only. -/
theorem Nginx.handling_lockstep (serves : Through (Serves (StoredAs numbering)) view answer)
    (admissible : nginx.Admissible) (deleted : Bool) {state start : σ}
    (same : ∀ key ∈ nginx.keys, (view state).get? key = (view start).get? key)
    (pods : nginx.podList (view state) = nginx.podList (view start)) :
    (nginx.handling deleted answer state).result = (nginx.handling deleted answer start).result ∧
      Alike numbering nginx [] (view (nginx.handling deleted answer state).state)
        (view (nginx.handling deleted answer start).state) := by
  have kept : ∀ key ∈ nginx.keys,
      Option.Rel (Restamps numbering) ((view state).get? key) ((view start).get? key) := by
    intro key own
    rw [same key own]
    exact Restamps.rel_refl _
  cases deleted with
  | true => exact ⟨rfl, by simp, pods, kept⟩
  | false =>
      obtain ⟨records, walk, -⟩ := dispatch_walks answer nginx state
      obtain ⟨trail, along, -⟩ := dispatch_walks answer nginx start
      refine (serves.handles walk).lockstep admissible (serves.handles along) ?_
      exact ⟨⟨same, pods, kept⟩, fun _ replaced => by cases replaced⟩

end Runs

/-!
### Two instances
-/

section Instances

variable {nginx other : Nginx} {numbering : Bool} {σ : Type}
  {answer : σ → Request → Outcome × σ} {view : σ → ObjectStore}

/-- Two instances of different places are handled on a server that stores what it is sent, with or
    without versions of its own. The runs touch no object in common, whenever they start, and each one
    leaves the objects that it does not touch. In either order, both end with the same results, and
    the stores differ in the versions only. -/
theorem instances_do_not_interfere (serves : Through (Serves (StoredAs numbering)) view answer)
    (admissible : nginx.Admissible) (others : other.Admissible)
    (places : (nginx.namespaceName, nginx.name) ≠ (other.namespaceName, other.name))
    (deleted gone : Bool) (state : σ) :
    let first := nginx.handling deleted answer state
    let second := other.handling gone answer first.state
    let early := other.handling gone answer state
    let late := nginx.handling deleted answer early.state
    (∀ start key, first.Touches key → ¬ (other.handling gone answer start).Touches key) ∧
    (∀ key, ¬ first.Touches key → (view first.state).get? key = (view state).get? key) ∧
    first.result = late.result ∧ second.result = early.result ∧
    ∀ key, Option.Rel (Restamps numbering) ((view second.state).get? key)
      ((view late.state).get? key) := by
  intro first second early late
  have apart := Nginx.disjoint_keys places
  have parted := Nginx.disjoint_keys places.symm
  -- Each run finds its objects and pods as if the other one had not taken place.
  have own : first.result = late.result ∧
      Alike numbering nginx [] (view first.state) (view late.state) :=
    Nginx.handling_lockstep serves admissible deleted
      (fun key mine => (Nginx.get?_handling serves others (apart key mine)).symm)
      (Nginx.podList_handling serves others).symm
  have its : second.result = early.result ∧
      Alike numbering other [] (view second.state) (view early.state) :=
    Nginx.handling_lockstep serves others gone
      (fun key mine => Nginx.get?_handling serves admissible (parted key mine))
      (Nginx.podList_handling serves admissible)
  refine ⟨?_, fun key => Nginx.handling_frame serves admissible, own.1, its.1, ?_⟩
  · intro start key touched again
    exact apart key (Nginx.mem_keys_of_touches admissible touched)
      (Nginx.mem_keys_of_touches others again)
  · intro key
    by_cases mine : key ∈ nginx.keys
    · rw [Nginx.get?_handling serves others (apart key mine)]
      exact own.2.kept key mine
    · have unchanged : (view late.state).get? key = (view early.state).get? key :=
        Nginx.get?_handling serves admissible mine
      rw [unchanged]
      by_cases theirs : key ∈ other.keys
      · exact its.2.kept key theirs
      · rw [Nginx.get?_handling serves others theirs, Nginx.get?_handling serves admissible mine,
          Nginx.get?_handling serves others theirs]
        exact Restamps.rel_refl _

end Instances

/-- A server that counts its requests and makes the count the version of what it stores. -/
def counting (state : ObjectStore × Nat) (request : Request) : Outcome × (ObjectStore × Nat) :=
  let served := state.1.serveWith (fun _ body => body.withVersion (toString state.2)) request
  (served.1, served.2, state.2 + 1)

theorem through_counting : Through (Serves (StoredAs true)) Prod.fst counting := by
  intro state request
  exact ⟨_, fun _ body => ⟨_, rfl⟩, rfl⟩

/-- An instance that is named as the deployment of another one. -/
def namesakeNginx : Nginx where
  metadata := { name := some declaredNginx.deploymentName, namespaceName := some "default" }
  spec := { replicas := some 3 }

theorem admissible_namesakeNginx : namesakeNginx.Admissible where
  name := ⟨"web-deployment", rfl, by decide, by decide⟩
  namespaceName := ⟨"default", rfl, by decide, by decide⟩

/-- The instance and the deployment of one name are kept apart, though the versions in the store depend
    on the order. -/
theorem instances_do_not_interfere_namesake :
    let first := declaredNginx.handling false counting (driftedStore, 0)
    let second := namesakeNginx.handling false counting first.state
    let early := namesakeNginx.handling false counting (driftedStore, 0)
    let late := declaredNginx.handling false counting early.state
    (∀ start key, first.Touches key →
      ¬ (namesakeNginx.handling false counting start).Touches key) ∧
    (∀ key, ¬ first.Touches key → first.state.1.get? key = driftedStore.get? key) ∧
    first.result = late.result ∧ second.result = early.result ∧
    ∀ key, Option.Rel (Restamps true) (second.state.1.get? key) (late.state.1.get? key) :=
  instances_do_not_interfere through_counting admissible_declaredNginx admissible_namesakeNginx
    (by decide) false false (driftedStore, 0)

end NginxFleet
