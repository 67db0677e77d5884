/-
Module: NginxFleet.Proofs.Drift.Update
Layer: Proofs
Purpose: What an update does to a deployment that has drifted, in memory and on the wire. It takes over
  the number of pods and their template and leaves all else as it is, after which there is no drift.
  The deployment that the server then reads is the one that was meant, but for numbers in the fields
  that a manager set: a number may be read as a neighbour of itself.
Main exports: Deployment.updated, Deployment.UpdatedTo, Deployment.ReadAs, FindsDeployment,
  update_repairs_drift_only
-/
import NginxFleet.Proofs.Rollout.Sequence
import NginxFleet.Server.Script

namespace NginxFleet

/-!
### In memory
-/

namespace Deployment

/-- A deployment after an update: its repaired form, or the deployment itself if it has not drifted. -/
def updated (existing desired : Deployment) : Deployment :=
  (existing.repair? desired).getD existing

/-- What an update makes of a deployment. -/
structure UpdatedTo (existing desired after : Deployment) : Prop where
  untouched : existing.repair? desired = none → after = existing
  metadata : after.metadata = existing.metadata
  status : after.status = existing.status
  spec : existing.repair? desired ≠ none → ∀ current wanted, existing.spec = some current →
    desired.spec = some wanted →
      after.spec = some { current with replicas := wanted.replicas, template := wanted.template }
  whole : existing.repair? desired ≠ none → existing.spec = none ∨ desired.spec = none →
    after.spec = desired.spec
  aligned : after.ownedFields = desired.ownedFields
  settled : after.repair? desired = none ∧ after.updated desired = after

variable {existing desired repaired : Deployment}

/-- The parts that are compared are the wanted ones once the specification is repaired. -/
theorem ownedFields_repaired :
    ({ existing with spec := repairedSpec existing.spec desired.spec } : Deployment).ownedFields =
      desired.ownedFields := by
  cases current : existing.spec with
  | none => simp [repairedSpec, ownedFields, podSpec?]
  | some old =>
      cases wanted : desired.spec with
      | none => simp [repairedSpec, ownedFields, podSpec?, wanted]
      | some spec => simp [repairedSpec, ownedFields, podSpec?, wanted]

theorem updated_of_repair? (repair : existing.repair? desired = some repaired) :
    existing.updated desired = repaired := by
  rw [updated, repair, Option.getD_some]

theorem updated_of_aligned (aligned : existing.repair? desired = none) :
    existing.updated desired = existing := by
  rw [updated, aligned, Option.getD_none]

theorem ownedFields_updated : (existing.updated desired).ownedFields = desired.ownedFields := by
  cases repair : existing.repair? desired with
  | none =>
      rw [updated_of_aligned repair]
      exact repair?_eq_none_iff.mp repair
  | some repaired =>
      rw [updated_of_repair? repair, (repair?_eq_some_iff.mp repair).2]
      exact ownedFields_repaired

/-- An update brings in line what is compared, leaves all else as it is and need not be made twice. -/
theorem updatedTo_updated (existing desired : Deployment) :
    existing.UpdatedTo desired (existing.updated desired) := by
  have again : (existing.updated desired).repair? desired = none :=
    repair?_eq_none_iff.mpr ownedFields_updated
  have settled := And.intro again (updated_of_aligned again)
  cases repair : existing.repair? desired with
  | none =>
      have same := updated_of_aligned repair
      exact ⟨fun _ => same, by rw [same], by rw [same], fun drifted => absurd repair drifted,
        fun drifted => absurd repair drifted, ownedFields_updated, settled⟩
  | some repaired =>
      have made := (repair?_eq_some_iff.mp repair).2
      rw [← updated_of_repair? repair] at made
      refine ⟨fun kept => ?_, by rw [made], by rw [made], ?_, ?_, ownedFields_updated, settled⟩
      · rw [repair] at kept
        cases kept
      · intro _ current wanted existed wants
        rw [made, existed, wants]
        rfl
      · rintro - (absent | absent)
        · rw [made, absent]
          rfl
        · rw [made, absent]
          cases existing.spec <;> rfl

/-!
### On the wire
-/

/-- The numbers in the fields that managers set are read as they are written. -/
def KeepsNumbers (deployment : Deployment) : Prop :=
  ∀ entries ∈ deployment.metadata.managedFields, ∀ entry ∈ entries,
    ∀ document ∈ entry.fieldsV1, document.received = document

/-- What a server reads when a deployment is sent: the deployment itself, but for numbers in the fields
    that managers set. -/
structure ReadAs (sent reading : Deployment) : Prop where
  kept : reading = { sent with
    metadata := { sent.metadata with managedFields := reading.metadata.managedFields } }
  managed : reading.metadata.managedFields =
    sent.metadata.managedFields.map fun entries => entries.map ManagedFields.received
  exact : sent.KeepsNumbers → reading = sent

theorem received_of_keepsNumbers {deployment : Deployment} (keeps : deployment.KeepsNumbers) :
    deployment.received = deployment := by
  rw [received, ObjectMeta.received_eq_self keeps]

theorem readAs_received (sent : Deployment) : sent.ReadAs sent.received :=
  ⟨rfl, rfl, received_of_keepsNumbers⟩

end Deployment

section Runs

variable {σ : Type} {answer : σ → Request → Outcome × σ} {nginx : Nginx} {state : σ}

/-- A server has a deployment of the name of an instance already: it refuses to create one, and what it
    answers when it is asked for the deployment can be read. -/
structure FindsDeployment (answer : σ → Request → Outcome × σ) (nginx : Nginx) (state : σ)
    (existing : Deployment) : Prop where
  refused : ∃ cause : ClientError, cause.isAlreadyExists ∧
    readAnswer Deployment.ofJson? (answer state (Call.createDeployment.sent nginx)).1 =
      .error cause
  reading : readAnswer Deployment.ofJson?
    (answer (answer state (Call.createDeployment.sent nginx)).2
      (Call.fetchDeployment.sent nginx)).1 = .ok existing

variable {existing : Deployment}

theorem Call.after_refused {cause : ClientError} {outcome : Outcome} (taken : cause.isAlreadyExists)
    (refused : readAnswer Deployment.ofJson? outcome = .error cause) :
    Call.createDeployment.after Call.aboutDeployment nginx (Call.createDeployment.read outcome) =
      .pending .fetchDeployment := by
  simp [after, read, refused, Except.map, failure?, tolerates_of_post .createDeployment rfl, taken,
    followUp?, Point.before, Option.filter, aboutDeployment]

theorem Call.after_found {outcome : Outcome}
    (reading : readAnswer Deployment.ofJson? outcome = .ok existing) :
    Call.fetchDeployment.after Call.aboutDeployment nginx (Call.fetchDeployment.read outcome) =
      match existing.repair? nginx.desiredDeployment with
      | some repaired => .pending (.replaceDeployment repaired)
      | none => .ended (.ok ()) := by
  simp only [after, read, reading, Except.map, failure?, followUp?]
  cases existing.repair? nginx.desiredDeployment <;> rfl

/-- A deployment that is there already is asked for, and then replaced if it has drifted. -/
theorem FindsDeployment.requests_eq (admissible : nginx.Admissible)
    (finds : FindsDeployment answer nginx state existing) :
    ((reconcileDeployment nginx).run answer state).requests =
      (.createDeployment :: .fetchDeployment ::
        ((existing.repair? nginx.desiredDeployment).map Call.replaceDeployment).toList).map
          (Call.sent nginx) := by
  obtain ⟨records, walk, exchanges⟩ := reconcileDeployment_walks answer nginx state
  obtain ⟨cause, taken, refused⟩ := finds.refused
  rw [walk.sent_of_exchanges admissible exchanges]
  obtain ⟨later, calls, rest⟩ := walk.head_answered admissible
  rw [Call.after_refused taken refused] at rest
  obtain ⟨records, walk, rfl⟩ := rest
  obtain ⟨later, calls', rest⟩ := walk.head_answered admissible
  rw [Call.after_found finds.reading] at rest
  rw [calls, calls']
  cases repair : existing.repair? nginx.desiredDeployment with
  | none =>
      rw [repair] at rest
      obtain ⟨rfl, -⟩ := rest
      rfl
  | some repaired =>
      rw [repair] at rest
      obtain ⟨records, walk, rfl⟩ := rest
      obtain ⟨later, last, rest⟩ := walk.head_answered admissible
      -- Nothing about the deployment comes after its replacement.
      obtain ⟨ended, after⟩ := Call.after_last Call.aboutDeployment nginx
        (.replaceDeployment repaired) ((Call.replaceDeployment repaired).read _) rfl
      rw [after] at rest
      obtain ⟨rfl, -⟩ := rest
      rw [last]
      rfl

end Runs

/-- An update takes over the number of pods and the template that are wanted and leaves all else in a
    deployment as it is, and is made exactly if there is drift. A run for an instance that finds a
    deployment replaces it exactly then, and the server reads the updated deployment in the request,
    but for numbers in the fields that managers set. -/
theorem update_repairs_drift_only :
    (∀ existing desired : Deployment, existing.UpdatedTo desired (existing.updated desired)) ∧
    ∀ {σ : Type} (answer : σ → Request → Outcome × σ) (nginx : Nginx) (state : σ)
      (existing : Deployment), nginx.Admissible → FindsDeployment answer nginx state existing →
      let transcript := (reconcileDeployment nginx).run answer state
      (transcript.Replaces ↔ existing.repair? nginx.desiredDeployment ≠ none) ∧
        ∀ request ∈ transcript.requests, request.method = .put →
          Place.ofPath? request.target.path = some (.one nginx.deploymentKey) ∧
          ∃ reading, request.body.bind Deployment.ofJson? = some reading ∧
            (existing.updated nginx.desiredDeployment).ReadAs reading := by
  refine ⟨Deployment.updatedTo_updated, ?_⟩
  intro σ answer nginx state existing admissible finds transcript
  have requests : transcript.requests = _ := finds.requests_eq admissible
  unfold Transcript.Replaces
  rw [requests]
  cases repair : existing.repair? nginx.desiredDeployment with
  | none => simp [Call.sent, Call.method]
  | some repaired =>
      obtain ⟨document, given⟩ := document_of_readAnswer finds.reading
      have sendable := Deployment.sendable_of_repair? given repair
      rw [Deployment.updated_of_repair? repair]
      constructor
      · simp [Call.sent, Call.method]
      · intro request among put
        have replacement : request = (Call.replaceDeployment repaired).sent nginx := by
          simp only [Option.map_some, Option.toList_some, List.map_cons, List.map_nil,
            List.mem_cons, List.not_mem_nil, or_false] at among
          rcases among with rfl | rfl | last
          · cases put
          · cases put
          · exact last
        subst replacement
        refine ⟨Call.ofPath?_sent admissible (.replaceDeployment repaired), repaired.received, ?_,
          repaired.readAs_received⟩
        exact Deployment.ofJson?_received sendable

/-- A server that has the deployment of an instance already, with a number in the fields that its
    manager set. -/
def weighedScript : Script := [
  ⟨.post, "/apis/apps/v1/namespaces/default/deployments",
    refusal 409 "AlreadyExists" "deployments.apps \"web-deployment\" already exists"⟩,
  ⟨.get, "/apis/apps/v1/namespaces/default/deployments/web-deployment", .answer 200 (.document (.obj [
    ("metadata", .obj [
      ("managedFields", .arr [.obj [("fieldsV1", .obj [
        ("f:weight", .float ⟨false, 8305581565106149, -371⟩)])]]),
      ("resourceVersion", .str "7")]),
    ("spec", .obj [("replicas", .int 7)])]))⟩]

/-- The deployment that the operator reads there. -/
def weighedDeployment : Deployment where
  metadata := {
    managedFields := some [{
      fieldsV1 := some (.obj [("f:weight", .float ⟨false, 8305581565106150, -371⟩)]) }]
    resourceVersion := some "7" }
  spec := some { replicas := some 7 }

theorem findsDeployment_weighed :
    FindsDeployment Script.answer declaredNginx weighedScript weighedDeployment where
  refused := by
    refine ⟨.refused ⟨"Failure", "deployments.apps \"web-deployment\" already exists",
      "AlreadyExists", 409⟩, rfl, ?_⟩
    decide +kernel
  reading := by decide +kernel

/-- That deployment has drifted, so it is replaced by one of which the server reads all but the numbers
    as they were meant. -/
theorem update_repairs_drift_only_weighed :
    declaredNginx.Admissible ∧
      FindsDeployment Script.answer declaredNginx weighedScript weighedDeployment ∧
      ∃ request ∈ ((reconcileDeployment declaredNginx).run Script.answer weighedScript).requests,
        request.method = .put ∧ ∃ reading, request.body.bind Deployment.ofJson? = some reading ∧
          (weighedDeployment.updated declaredNginx.desiredDeployment).ReadAs reading := by
  obtain ⟨replaces, sent⟩ := update_repairs_drift_only.2 Script.answer declaredNginx weighedScript
    weighedDeployment admissible_declaredNginx findsDeployment_weighed
  have drifted : weighedDeployment.repair? declaredNginx.desiredDeployment ≠ none := by
    decide +kernel
  obtain ⟨request, among, put⟩ := replaces.mpr drifted
  obtain ⟨-, read⟩ := sent request among put
  exact ⟨admissible_declaredNginx, findsDeployment_weighed, request, among, put, read⟩

/-- The server does not read the very deployment that was meant: the number became a neighbour of
    itself. -/
theorem update_rounds_managed_numbers :
    declaredNginx.Admissible ∧
      FindsDeployment Script.answer declaredNginx weighedScript weighedDeployment ∧
      ∃ request ∈ ((reconcileDeployment declaredNginx).run Script.answer weighedScript).requests,
        request.method = .put ∧ request.body.bind Deployment.ofJson? ≠
          some (weighedDeployment.updated declaredNginx.desiredDeployment) := by
  refine ⟨admissible_declaredNginx, findsDeployment_weighed, ?_⟩
  decide +kernel

end NginxFleet
