/-
Module: NginxFleet.Proofs.Wire.Deployment
Layer: Proofs
Purpose: The deployments that the operator sends survive the wire: those it builds, and those it read
  and repaired. A deployment that was read may carry fields in its template that are kept unread, but
  one that is sent has the template of an instance; all its other fields are read back one by one.
Main exports: Deployment.Sendable, Deployment.received, Deployment.ofJson?_toJson,
  Deployment.received_toJson, Deployment.ofJson?_received, Deployment.ofJson?_stored,
  Nginx.sendable_desiredDeployment
-/
import NginxFleet.Nginx.Drift
import NginxFleet.Proofs.Wire.Template

namespace NginxFleet

open Json

/-!
### The parts of a specification
-/

theorem IntOrText.ofJson?_toJson (amount : IntOrText) : ofJson? amount.toJson = some amount := by
  cases amount with
  | int value => simp [ofJson?, toJson, ofInt32, ← readInt32_ofInt32 value]
  | text value => rfl

theorem IntOrText.received_toJson (amount : IntOrText) :
    amount.toJson.received = amount.toJson := by
  cases amount <;> rfl

theorem readLast_amount (value : Option IntOrText) :
    readLast IntOrText.ofJson? (value.map IntOrText.toJson).toList = some value :=
  readLast_record rfl fun amount _ => IntOrText.ofJson?_toJson amount

namespace SelectorRequirement

theorem ofJson?_toJson (requirement : SelectorRequirement) :
    ofJson? requirement.toJson = some requirement := by
  simp [ofJson?, toJson, record, openMembers, orElse, optional_eq_readLast,
    occurrences_setMembers_cons]

theorem received_toJson (requirement : SelectorRequirement) :
    requirement.toJson.received = requirement.toJson := by
  simp [toJson, Function.comp_def]

end SelectorRequirement

namespace LabelSelector

theorem ofJson?_toJson (selector : LabelSelector) : ofJson? selector.toJson = some selector := by
  have requirements : readLast (readList SelectorRequirement.ofJson?)
      (selector.matchExpressions.map (Json.ofList SelectorRequirement.toJson)).toList =
        some selector.matchExpressions :=
    readLast_list fun _ _ requirement _ => SelectorRequirement.ofJson?_toJson requirement
  simp [ofJson?, toJson, record, openMembers, optional_eq_readLast, occurrences_setMembers_cons,
    requirements]

theorem received_toJson (selector : LabelSelector) :
    selector.toJson.received = selector.toJson := by
  simp [toJson, Function.comp_def, SelectorRequirement.received_toJson]

end LabelSelector

namespace RollingUpdate

theorem ofJson?_toJson (update : RollingUpdate) : ofJson? update.toJson = some update := by
  simp [ofJson?, toJson, record, openMembers, optional_eq_readLast, occurrences_setMembers_cons,
    readLast_amount]

theorem received_toJson (update : RollingUpdate) : update.toJson.received = update.toJson := by
  simp [toJson, Function.comp_def, IntOrText.received_toJson]

end RollingUpdate

namespace DeploymentStrategy

theorem ofJson?_toJson (strategy : DeploymentStrategy) :
    ofJson? strategy.toJson = some strategy := by
  have update : readLast RollingUpdate.ofJson?
      (strategy.rollingUpdate.map RollingUpdate.toJson).toList = some strategy.rollingUpdate :=
    readLast_record rfl fun update _ => RollingUpdate.ofJson?_toJson update
  simp [ofJson?, toJson, record, openMembers, optional_eq_readLast, occurrences_setMembers_cons,
    update]

theorem received_toJson (strategy : DeploymentStrategy) :
    strategy.toJson.received = strategy.toJson := by
  simp [toJson, Function.comp_def, RollingUpdate.received_toJson]

end DeploymentStrategy

namespace DeploymentSpec

theorem ofJson?_toJson {spec : DeploymentSpec}
    (template : PodTemplate.ofJson? spec.template.toJson = some spec.template) :
    ofJson? spec.toJson = some spec := by
  have selector : readLast LabelSelector.ofJson? [spec.selector.toJson] =
      some (some spec.selector) :=
    readLast_single (readNullable_of_some rfl (LabelSelector.ofJson?_toJson spec.selector))
  have strategy : readLast DeploymentStrategy.ofJson?
      (spec.strategy.map DeploymentStrategy.toJson).toList = some spec.strategy :=
    readLast_record rfl fun strategy _ => DeploymentStrategy.ofJson?_toJson strategy
  have pods : readLast PodTemplate.ofJson? [spec.template.toJson] = some (some spec.template) :=
    readLast_single (readNullable_of_some rfl template)
  simp [ofJson?, toJson, record, openMembers, orElse, optional_eq_readLast,
    occurrences_setMembers_cons, selector, strategy, pods]

theorem received_toJson {spec : DeploymentSpec}
    (template : spec.template.toJson.received = spec.template.toJson) :
    spec.toJson.received = spec.toJson := by
  simp [toJson, Function.comp_def, LabelSelector.received_toJson,
    DeploymentStrategy.received_toJson, template]

end DeploymentSpec

/-!
### The status
-/

namespace DeploymentCondition

/-- A condition whose times are on the calendar. -/
structure Valid (condition : DeploymentCondition) : Prop where
  lastTransitionTime : ∀ t ∈ condition.lastTransitionTime, t.Valid
  lastUpdateTime : ∀ t ∈ condition.lastUpdateTime, t.Valid

theorem ofJson?_toJson {condition : DeploymentCondition} (valid : condition.Valid) :
    ofJson? condition.toJson = some condition := by
  have transition := readLast_time valid.lastTransitionTime
  have update := readLast_time valid.lastUpdateTime
  simp [ofJson?, toJson, record, openMembers, orElse, optional_eq_readLast,
    occurrences_setMembers_cons, transition, update]

theorem received_toJson (condition : DeploymentCondition) :
    condition.toJson.received = condition.toJson := by
  simp [toJson, Function.comp_def]

theorem valid_of_ofJson? {document : Json} {condition : DeploymentCondition}
    (reading : ofJson? document = some condition) : condition.Valid := by
  unfold ofJson? at reading
  simp only [Option.bind_eq_bind, Option.bind_eq_some_iff] at reading
  obtain ⟨_, _, transition, transitions, update, updates, _, _, _, _, _, _, _, _, made⟩ := reading
  cases made
  exact ⟨valid_of_optional_time transitions, valid_of_optional_time updates⟩

end DeploymentCondition

namespace DeploymentStatus

/-- A status whose conditions have times on the calendar. -/
def Valid (status : DeploymentStatus) : Prop :=
  ∀ conditions ∈ status.conditions, ∀ condition ∈ conditions, condition.Valid

theorem ofJson?_toJson {status : DeploymentStatus} (valid : status.Valid) :
    ofJson? status.toJson = some status := by
  have conditions : readLast (readList DeploymentCondition.ofJson?)
      (status.conditions.map (Json.ofList DeploymentCondition.toJson)).toList =
        some status.conditions :=
    readLast_list fun conditions found condition member =>
      DeploymentCondition.ofJson?_toJson (valid conditions found condition member)
  simp [ofJson?, toJson, record, openMembers, optional_eq_readLast, occurrences_setMembers_cons,
    conditions]

theorem received_toJson (status : DeploymentStatus) : status.toJson.received = status.toJson := by
  simp [toJson, Function.comp_def, DeploymentCondition.received_toJson]

theorem valid_of_ofJson? {document : Json} {status : DeploymentStatus}
    (reading : ofJson? document = some status) : status.Valid := by
  unfold ofJson? at reading
  simp only [Option.bind_eq_bind, Option.bind_eq_some_iff] at reading
  obtain ⟨_, _, _, _, _, _, conditions, found, _, _, _, _, _, _, _, _, _, _, made⟩ := reading
  cases made
  have each : ∀ list ∈ conditions, ∀ condition ∈ list, condition.Valid := by
    refine of_optional ?_ found
    intro document list _ reading
    exact of_readList (fun _ _ => DeploymentCondition.valid_of_ofJson?) reading
  exact each

end DeploymentStatus

/-!
### Deployments that are sent
-/

namespace Deployment

/-- A deployment that can be sent and read again: its times are on the calendar, its free values in
    canonical form, and its pods are made from the template of an instance. -/
structure Sendable (deployment : Deployment) : Prop where
  metadata : deployment.metadata.Valid
  status : ∀ status ∈ deployment.status, status.Valid
  template : ∀ spec ∈ deployment.spec, ∃ nginx : Nginx, spec.template = nginx.desiredTemplate

/-- The deployment that is read in the text of a deployment. -/
def received (deployment : Deployment) : Deployment :=
  { deployment with metadata := deployment.metadata.received }

theorem Sendable.received {deployment : Deployment} (sendable : deployment.Sendable) :
    deployment.received.Sendable where
  metadata := sendable.metadata.received
  status := sendable.status
  template := sendable.template

theorem ofJson?_toJson {deployment : Deployment} (sendable : deployment.Sendable) :
    ofJson? deployment.toJson = some deployment := by
  have metadata : readLast ObjectMeta.ofJson? [deployment.metadata.toJson] =
      some (some deployment.metadata) :=
    readLast_single (readNullable_of_some rfl (ObjectMeta.ofJson?_toJson sendable.metadata))
  have spec : readLast DeploymentSpec.ofJson?
      (deployment.spec.map DeploymentSpec.toJson).toList = some deployment.spec := by
    apply readLast_record rfl
    intro spec found
    obtain ⟨nginx, template⟩ := sendable.template spec found
    refine DeploymentSpec.ofJson?_toJson ?_
    rw [template]
    exact nginx.ofJson?_desiredTemplate
  have status : readLast DeploymentStatus.ofJson?
      (deployment.status.map DeploymentStatus.toJson).toList = some deployment.status :=
    readLast_record rfl fun status found =>
      DeploymentStatus.ofJson?_toJson (sendable.status status found)
  simp [ofJson?, toJson, identified, record, openMembers, orElse, optional_eq_readLast,
    occurrences_setMembers_cons, metadata, spec, status]

theorem received_toJson {deployment : Deployment} (sendable : deployment.Sendable) :
    deployment.toJson.received = deployment.received.toJson := by
  have spec : deployment.spec.map (fun spec => spec.toJson.received) =
      deployment.spec.map DeploymentSpec.toJson := by
    apply Option.map_congr
    intro spec found
    obtain ⟨nginx, template⟩ := sendable.template spec found
    apply DeploymentSpec.received_toJson
    rw [template]
    exact nginx.received_desiredTemplate
  simp [toJson, received, Function.comp_def, ObjectMeta.received_toJson,
    DeploymentStatus.received_toJson, spec]

/-- A deployment that is sent is read as it was sent, but for what may change on the way. -/
theorem ofJson?_received {deployment : Deployment} (sendable : deployment.Sendable) :
    ofJson? deployment.toJson.received = some deployment.received := by
  rw [received_toJson sendable]
  exact ofJson?_toJson sendable.received

/-- A deployment that is stored as it came is read as it was sent, but for what may change on the way
    to the server and back. -/
theorem ofJson?_stored {deployment : Deployment} (sendable : deployment.Sendable) :
    ofJson? deployment.toJson.received.received = some deployment.received.received := by
  rw [received_toJson sendable]
  exact ofJson?_received sendable.received

theorem valid_of_ofJson? {document : Json} {deployment : Deployment}
    (reading : ofJson? document = some deployment) :
    deployment.metadata.Valid ∧ ∀ status ∈ deployment.status, status.Valid := by
  unfold ofJson? at reading
  simp only [Option.bind_eq_bind, Option.bind_eq_some_iff] at reading
  obtain ⟨members, _, metadata, found, _, _, status, reported, made⟩ := reading
  cases made
  have empty : ({} : ObjectMeta).Valid := ⟨by simp, by simp, by simp⟩
  have valid : metadata.Valid :=
    of_orElse (fun _ _ _ => ObjectMeta.valid_of_ofJson?) empty found
  exact ⟨valid, of_optional (fun _ _ _ => DeploymentStatus.valid_of_ofJson?) reported⟩

end Deployment

theorem Nginx.valid_dependentMetadata (nginx : Nginx) (name : String) :
    (nginx.dependentMetadata name).Valid where
  creationTimestamp := by simp [dependentMetadata]
  deletionTimestamp := by simp [dependentMetadata]
  managedFields := by simp [dependentMetadata]

theorem Nginx.sendable_desiredDeployment (nginx : Nginx) : nginx.desiredDeployment.Sendable where
  metadata := nginx.valid_dependentMetadata _
  status := by simp [desiredDeployment]
  template := by
    intro spec found
    cases found
    exact ⟨nginx, rfl⟩

end NginxFleet
