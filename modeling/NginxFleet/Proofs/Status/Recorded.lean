/-
Module: NginxFleet.Proofs.Status.Recorded
Layer: Proofs
Purpose: When the status of an instance is written, and with what. Once the pods are listed, a run is
  known request by request: it records the pods seen, in their one order, if they are not those that
  stand in the status, and else sends nothing more. The order of the list and of the status plays no
  part, and pods that were recorded are not recorded again.
Main exports: ListsPods, refreshStatus_requests, PodEntry.Arranges, RecordsChange,
  status_is_recorded_if_pods_changed
-/
import NginxFleet.Proofs.Rollout.Sequence
import NginxFleet.Proofs.Status.Order
import NginxFleet.Server.Script

namespace NginxFleet

/-!
### The requests of a run
-/

section Runs

variable {σ : Type} {answer : σ → Request → Outcome × σ} {nginx : Nginx} {state : σ}
  {pods : List Pod}

/-- A server answers the list call of an instance, and these are the pods in its answer. -/
def ListsPods (answer : σ → Request → Outcome × σ) (nginx : Nginx) (state : σ) (pods : List Pod) :
    Prop :=
  readAnswer Pod.listOfJson? (answer state (Call.listPods.sent nginx)).1 = .ok pods

theorem Call.after_listed {outcome : Outcome}
    (listed : readAnswer Pod.listOfJson? outcome = .ok pods) :
    Call.listPods.after Call.any nginx (Call.listPods.read outcome) =
      if podsChanged (observedPods pods) nginx.storedPods then
        .pending (.recordPods (observedPods pods))
      else .ended (.ok ()) := by
  simp only [after, read, listed, Except.map, failure?, followUp?]
  cases podsChanged (observedPods pods) nginx.storedPods <;> rfl

/-- The pods are listed, and then recorded if they have changed. -/
theorem refreshStatus_requests (admissible : nginx.Admissible)
    (lists : ListsPods answer nginx state pods) :
    ((refreshStatus nginx false).run answer state).requests =
      Call.listPods.sent nginx ::
        if podsChanged (observedPods pods) nginx.storedPods then
          [(Call.recordPods (observedPods pods)).sent nginx]
        else [] := by
  obtain ⟨records, walk, exchanges⟩ := refreshStatus_walks answer nginx state
  rw [walk.sent_of_exchanges admissible exchanges]
  obtain ⟨later, calls, rest⟩ := walk.head_answered admissible
  rw [Call.after_listed lists] at rest
  rw [calls]
  cases changed : podsChanged (observedPods pods) nginx.storedPods with
  | false =>
      rw [changed] at rest
      obtain ⟨rfl, -⟩ := rest
      rfl
  | true =>
      rw [changed] at rest
      obtain ⟨records, walk, rfl⟩ := rest
      obtain ⟨later, last, rest⟩ := walk.head_answered admissible
      obtain ⟨ended, after⟩ := Call.after_last Call.any nginx
        (.recordPods (observedPods pods)) ((Call.recordPods (observedPods pods)).read _) rfl
      rw [after] at rest
      obtain ⟨rfl, -⟩ := rest
      rw [last]
      rfl

end Runs

/-!
### What is recorded
-/

/-- Entries are the one ascending arrangement of others, in which none is lost or added. -/
structure PodEntry.Arranges (written entries : List PodEntry) : Prop where
  ordered : written.Pairwise PodEntry.InOrder
  same : written.Perm entries
  unique : ∀ other : List PodEntry, other.Pairwise PodEntry.InOrder → other.Perm entries →
    other = written

theorem PodEntry.arranges_iff {written entries : List PodEntry} :
    PodEntry.Arranges written entries ↔ written = PodEntry.sorted entries := by
  constructor
  · intro arranged
    exact eq_sorted_iff.mpr ⟨arranged.ordered, arranged.same⟩
  · rintro rfl
    exact {
      ordered := pairwise_inOrder_sorted entries
      same := sorted_perm entries
      unique := fun _ ordered same => eq_sorted_iff.mpr ⟨ordered, same⟩ }

/-- The requests by which the pods of an instance are recorded: the list call, and a second request
    exactly if the pods are not those in the status. It sends the instance with the status replaced
    to the place of its status. -/
structure RecordsChange (nginx : Nginx) (pods : List Pod) (requests : List Request) : Prop where
  decision : (∃ request ∈ requests, request.method = .put) ↔
    ¬ (pods.map Pod.entry).Perm nginx.storedPods
  listing : requests.head? = some (Call.listPods.sent nginx)
  length : requests.length ≤ 2
  content : ∃ written, PodEntry.Arranges written (pods.map Pod.entry) ∧
    ∀ request ∈ requests, request.method = .put →
      Place.ofPath? request.target.path = some (.status nginx.storeKey) ∧
      request.body = some { nginx with status := some { pods := written } }.toJson.received

theorem recordsChange_of_lists {σ : Type} {answer : σ → Request → Outcome × σ} {nginx : Nginx}
    {state : σ} {pods : List Pod} (admissible : nginx.Admissible)
    (lists : ListsPods answer nginx state pods) :
    RecordsChange nginx pods ((refreshStatus nginx false).run answer state).requests := by
  rw [refreshStatus_requests admissible lists]
  have arranged : PodEntry.Arranges (observedPods pods) (pods.map Pod.entry) :=
    PodEntry.arranges_iff.mpr rfl
  cases changed : podsChanged (observedPods pods) nginx.storedPods with
  | false =>
      have same := podsChanged_observedPods_eq_false_iff.mp changed
      exact {
        decision := by simp [same, Call.sent, Call.method]
        listing := rfl
        length := by simp
        content := ⟨_, arranged, by simp [Call.sent, Call.method]⟩ }
  | true =>
      have differ := not_perm_of_podsChanged changed
      exact {
        decision := by simp [differ, Call.sent, Call.method]
        listing := rfl
        length := by simp
        content := by
          refine ⟨_, arranged, ?_⟩
          intro request among put
          have recording : request = (Call.recordPods (observedPods pods)).sent nginx := by
            simp only [if_pos, List.mem_cons, List.not_mem_nil, or_false] at among
            rcases among with rfl | last
            · cases put
            · exact last
          subst recording
          exact ⟨Call.ofPath?_sent admissible (.recordPods (observedPods pods)), rfl⟩ }

/-- Neither the order of the pods that are listed nor that of the pods in the status matters to the
    requests of a run. -/
theorem refreshStatus_requests_of_perm {σ τ : Type} {answer : σ → Request → Outcome × σ}
    {answerToo : τ → Request → Outcome × τ} {nginx : Nginx} {status : Option NginxStatus}
    {state : σ} {stateToo : τ} {pods others : List Pod} (admissible : nginx.Admissible)
    (lists : ListsPods answer nginx state pods)
    (listsToo : ListsPods answerToo { nginx with status } stateToo others)
    (samePods : others.Perm pods)
    (sameStored : ({ nginx with status } : Nginx).storedPods.Perm nginx.storedPods) :
    ((refreshStatus { nginx with status } false).run answerToo stateToo).requests =
      ((refreshStatus nginx false).run answer state).requests := by
  have admissibleToo : ({ nginx with status } : Nginx).Admissible :=
    ⟨admissible.name, admissible.namespaceName⟩
  rw [refreshStatus_requests admissible lists, refreshStatus_requests admissibleToo listsToo,
    observedPods_eq_of_perm samePods, podsChanged, podsChanged,
    PodEntry.sorted_eq_of_perm sameStored]
  rfl

/-- Pods that stand in the status already are not recorded again. -/
theorem refreshStatus_requests_of_recorded {σ : Type} {answer : σ → Request → Outcome × σ}
    {nginx : Nginx} {state : σ} {pods others : List Pod} (admissible : nginx.Admissible)
    (lists : ListsPods answer nginx state others) (samePods : others.Perm pods)
    (recorded : nginx.storedPods = observedPods pods) :
    ((refreshStatus nginx false).run answer state).requests = [Call.listPods.sent nginx] := by
  rw [refreshStatus_requests admissible lists, observedPods_eq_of_perm samePods, recorded,
    podsChanged_observedPods]
  rfl

/-- Pods have changed unless those seen are in order and are those recorded, in whatever order. A run
    for an instance whose pods are listed records them, in their one order, exactly if they are not
    those in the status. It sends the same requests if the pods are listed in another order, and if
    those in the status stand in another order; and if the pods stand in the status as they were
    recorded, in whatever order they are listed then, nothing is written. -/
theorem status_is_recorded_if_pods_changed :
    (∀ observed stored : List PodEntry, podsChanged observed stored = false ↔
      observed.Pairwise PodEntry.InOrder ∧ observed.Perm stored) ∧
    ∀ {σ : Type} (answer : σ → Request → Outcome × σ) (nginx : Nginx) (state : σ)
      (pods : List Pod), nginx.Admissible → ListsPods answer nginx state pods →
      let requests := ((refreshStatus nginx false).run answer state).requests
      RecordsChange nginx pods requests ∧
      ∀ {τ : Type} (answerToo : τ → Request → Outcome × τ) (status : Option NginxStatus)
        (stateToo : τ) (others : List Pod), others.Perm pods →
        let again : Nginx := { nginx with status }
        ListsPods answerToo again stateToo others →
        let requestsToo := ((refreshStatus again false).run answerToo stateToo).requests
        (again.storedPods.Perm nginx.storedPods → requestsToo = requests) ∧
        (∀ written, status = some { pods := written } →
          PodEntry.Arranges written (pods.map Pod.entry) →
            ∀ request ∈ requestsToo, request.method ≠ .put) := by
  refine ⟨fun _ _ => podsChanged_eq_false_iff, ?_⟩
  intro σ answer nginx state pods admissible lists requests
  refine ⟨recordsChange_of_lists admissible lists, ?_⟩
  intro τ answerToo status stateToo others samePods again listsToo requestsToo
  refine ⟨refreshStatus_requests_of_perm admissible lists listsToo samePods, ?_⟩
  intro written carried arranged request among put
  have recorded : again.storedPods = observedPods pods := by
    show ({ nginx with status } : Nginx).storedPods = _
    rw [carried]
    exact PodEntry.arranges_iff.mp arranged
  have listing : requestsToo = [Call.listPods.sent again] :=
    refreshStatus_requests_of_recorded ⟨admissible.name, admissible.namespaceName⟩ listsToo samePods
      recorded
  rw [listing, List.mem_singleton] at among
  subst among
  cases put

/-- The list of the pods of an instance, as a server gives it. -/
def podListScript (pods : List Json) : Script := [
  ⟨.get, "/api/v1/namespaces/default/pods", .answer 200 (.document (.obj [("items", .arr pods)]))⟩]

/-- Pods of which several have one name, and one has neither a name of its own nor an address. -/
def crowd : List Pod := [
  ⟨{ name := some "web-1" }, some { podIP := some "10.0.0.2" }⟩,
  ⟨{ name := some "web-1" }, some { podIP := some "10.0.0.1" }⟩,
  ⟨{ generateName := some "web-" }, none⟩,
  ⟨{ name := some "web-1" }, some { podIP := some "10.0.0.2" }⟩]

/-- The documents of these pods. -/
def crowdDocuments : List Json :=
  let pod (address : String) : Json := .obj [
    ("metadata", .obj [("name", .str "web-1")]), ("status", .obj [("podIP", .str address)])]
  [pod "10.0.0.2", pod "10.0.0.1", .obj [("metadata", .obj [("generateName", .str "web-")])],
    pod "10.0.0.2"]

/-- The entries of these pods, in order. -/
def crowdEntries : List PodEntry :=
  [⟨"web-", ""⟩, ⟨"web-1", "10.0.0.1"⟩, ⟨"web-1", "10.0.0.2"⟩, ⟨"web-1", "10.0.0.2"⟩]

/-- These pods are recorded in an instance without a status, and when they are then listed the other
    way round, nothing is written. -/
theorem status_is_recorded_if_pods_changed_crowd :
    let recorded : Nginx := { declaredNginx with status := some { pods := crowdEntries } }
    let first := podListScript crowdDocuments
    let second := podListScript crowdDocuments.reverse
    declaredNginx.Admissible ∧ ListsPods Script.answer declaredNginx first crowd ∧
      crowd.reverse.Perm crowd ∧ ListsPods Script.answer recorded second crowd.reverse ∧
      PodEntry.Arranges crowdEntries (crowd.map Pod.entry) ∧
      ((refreshStatus declaredNginx false).run Script.answer first).Replaces ∧
      ∀ request ∈ ((refreshStatus recorded false).run Script.answer second).requests,
        request.method ≠ .put := by
  have lists : ListsPods Script.answer declaredNginx (podListScript crowdDocuments) crowd := by
    unfold ListsPods
    decide +kernel
  have listsToo : ListsPods Script.answer
      { declaredNginx with status := some { pods := crowdEntries } }
      (podListScript crowdDocuments.reverse) crowd.reverse := by
    unfold ListsPods
    decide +kernel
  have arranged : PodEntry.Arranges crowdEntries (crowd.map Pod.entry) :=
    PodEntry.arranges_iff.mpr (PodEntry.eq_sorted_iff.mpr ⟨by decide +kernel, by decide +kernel⟩)
  have new : ¬ (crowd.map Pod.entry).Perm declaredNginx.storedPods := by decide +kernel
  obtain ⟨records, again⟩ := status_is_recorded_if_pods_changed.2 Script.answer declaredNginx
    (podListScript crowdDocuments) crowd admissible_declaredNginx lists
  obtain ⟨-, kept⟩ := again Script.answer (some { pods := crowdEntries })
    (podListScript crowdDocuments.reverse) crowd.reverse crowd.reverse_perm listsToo
  exact ⟨admissible_declaredNginx, lists, crowd.reverse_perm, listsToo, arranged,
    records.decision.mpr new, kept crowdEntries rfl arranged⟩

end NginxFleet
