/-
Module: NginxFleet.Proofs.Rollout.Sequence
Layer: Proofs
Purpose: Snapshots of one instance, handled one after another while nobody else writes its deployment.
  Each leaves the deployment that it asks for. What is stored is then in line with the snapshot before,
  so what is compared tells exactly whether the specification comes to something else, and the
  deployment is replaced exactly then.
Main exports: rollOut, HoldsInLine, Settled.follows, reconcileDeployment_follows, rollOut_follows,
  last_specification_wins
-/
import NginxFleet.Proofs.Convergence.Retry
import NginxFleet.Proofs.Rollout.Effective
import NginxFleet.Proofs.Rollout.Settled

namespace NginxFleet

/-- Brings the deployments of snapshots in line, one after another. -/
def rollOut {σ : Type} (answer : σ → Request → Outcome × σ) :
    List Nginx → σ → List (Transcript (Except OperatorError Unit) σ)
  | [], _ => []
  | nginx :: later, state =>
    let transcript := (reconcileDeployment nginx).run answer state
    transcript :: rollOut answer later transcript.state

/-- A store holds a deployment with the number of pods and the template that an instance asks for. -/
def HoldsInLine (nginx : Nginx) (store : ObjectStore) : Prop :=
  ∃ document kept, store.get? nginx.deploymentKey = some document ∧
    Deployment.ofJson? document.received = some kept ∧ kept.InLine nginx

/-- A run sent a request that replaces something. -/
def Transcript.Replaces {α σ : Type} (transcript : Transcript α σ) : Prop :=
  ∃ request ∈ transcript.requests, request.method = .put

/-!
### One snapshot after another
-/

section Settled

variable {nginx previous : Nginx} {store final : ObjectStore} {calls : List Call}

theorem HoldsInLine.put {sent : Deployment} {document : Json} (sendable : sent.Sendable)
    (inLine : sent.InLine nginx)
    (stamps : Stamps nginx.deploymentKey sent.toJson.received document) :
    HoldsInLine nginx (store.put nginx.deploymentKey document) := by
  obtain ⟨kept, reading, stays⟩ := Deployment.inLine_stamped sendable inLine stamps
  refine ⟨document, kept, ?_, reading, stays⟩
  rw [ObjectStore.get?_put, if_pos rfl]

/-- The first snapshot creates its deployment. -/
theorem Settled.begins (settled : Settled Stamps nginx store calls final)
    (free : store.get? nginx.deploymentKey = none) : HoldsInLine nginx final := by
  cases settled with
  | created _ stamps =>
      exact .put nginx.sendable_desiredDeployment (Deployment.inLine_desiredDeployment nginx) stamps
  | kept found => simp [free] at found
  | repaired found => simp [free] at found

/-- What is stored for one snapshot has drifted for the next one exactly if their specifications do
    not come to the same. -/
theorem Deployment.InLine.drift_iff {existing : Deployment} (inLine : existing.InLine previous)
    (name : nginx.name = previous.name) :
    existing.ownedFields ≠ nginx.desiredDeployment.ownedFields ↔
      nginx.effectiveSpec ≠ previous.effectiveSpec := by
  rw [inLine.ownedFields_eq, Ne, Nginx.ownedFields_desiredDeployment_inj, name]
  simp only [true_and]
  exact ne_comm

/-- The next snapshot leaves the deployment that it asks for, and replaces the one that is stored
    exactly if its specification comes to something else. -/
theorem Settled.follows (settled : Settled Stamps nginx store calls final)
    (holds : HoldsInLine previous store) (key : nginx.deploymentKey = previous.deploymentKey)
    (name : nginx.name = previous.name) :
    HoldsInLine nginx final ∧
      ((∃ call ∈ calls, call.method = .put) ↔ nginx.effectiveSpec ≠ previous.effectiveSpec) := by
  obtain ⟨document, existing, stored, read, inLine⟩ := holds
  rw [← key] at stored
  cases settled with
  | created free => simp [free] at stored
  | kept found reading aligned =>
      rw [stored] at found
      cases found
      rw [read] at reading
      cases reading
      -- What is stored is in line with the snapshot before, so no drift means no change since.
      have same := Deployment.repair?_eq_none_iff.mp aligned
      have spec : nginx.effectiveSpec = previous.effectiveSpec :=
        not_not.mp fun differs => (inLine.drift_iff name).mpr differs same
      refine ⟨⟨document, existing, stored, read, inLine.congr name spec⟩, ?_⟩
      simp [spec, Call.method]
  | repaired found reading repair stamps =>
      rw [stored] at found
      cases found
      rw [read] at reading
      cases reading
      have differs := (Deployment.repair?_eq_some_iff.mp repair).1
      refine ⟨.put (Deployment.sendable_of_repair? read repair)
        (Deployment.inLine_of_repair? repair) stamps, ?_⟩
      simp [(inLine.drift_iff name).mp differs, Call.method]

end Settled

section Runs

variable {σ : Type} {answer : σ → Request → Outcome × σ} {view : σ → ObjectStore}
  {nginx previous : Nginx} {state : σ}

theorem Transcript.replaces_iff {transcript : Transcript (Except OperatorError Unit) σ}
    {calls : List Call} (requests : transcript.requests = calls.map (Call.sent nginx)) :
    transcript.Replaces ↔ ∃ call ∈ calls, call.method = .put := by
  unfold Replaces
  rw [requests]
  constructor
  · rintro ⟨request, sent, method⟩
    obtain ⟨call, among, rfl⟩ := List.mem_map.mp sent
    exact ⟨call, among, method⟩
  · rintro ⟨call, among, method⟩
    exact ⟨_, List.mem_map_of_mem among, method⟩

theorem reconcileDeployment_begins (serves : Through (Serves Stamps) view answer)
    (admissible : nginx.Admissible) (free : (view state).get? nginx.deploymentKey = none) :
    let transcript := (reconcileDeployment nginx).run answer state
    transcript.result = .ok () ∧ HoldsInLine nginx (view transcript.state) := by
  have readable : ∀ document, (view state).get? nginx.deploymentKey = some document →
      (Deployment.ofJson? document.received).isSome := by simp [free]
  obtain ⟨ended, calls, requests, settled⟩ := reconcileDeployment_settles serves admissible
    (keeps_stamps nginx) readable
  exact ⟨ended, settled.begins free⟩

theorem reconcileDeployment_follows (serves : Through (Serves Stamps) view answer)
    (admissible : nginx.Admissible) (holds : HoldsInLine previous (view state))
    (key : nginx.deploymentKey = previous.deploymentKey) (name : nginx.name = previous.name) :
    let transcript := (reconcileDeployment nginx).run answer state
    transcript.result = .ok () ∧ HoldsInLine nginx (view transcript.state) ∧
      (transcript.Replaces ↔ nginx.effectiveSpec ≠ previous.effectiveSpec) := by
  have readable : ∀ document, (view state).get? nginx.deploymentKey = some document →
      (Deployment.ofJson? document.received).isSome := by
    intro document found
    obtain ⟨stored, existing, held, reading, -⟩ := holds
    rw [← key, found] at held
    cases held
    simp [reading]
  obtain ⟨ended, calls, requests, settled⟩ := reconcileDeployment_settles serves admissible
    (keeps_stamps nginx) readable
  obtain ⟨kept, replaced⟩ := settled.follows holds key name
  exact ⟨ended, kept, (Transcript.replaces_iff requests).trans replaced⟩

/-!
### Any number of snapshots
-/

variable {snapshots : List Nginx} {namespaceName name : String}

/-- Every snapshot that is handled after another one ends well, leaves the deployment that it asks
    for, and replaces one exactly if its specification comes to something else than the one before. -/
theorem rollOut_follows (serves : Through (Serves Stamps) view answer)
    (admissible : ∀ nginx ∈ snapshots, nginx.Admissible)
    (same : ∀ nginx ∈ snapshots,
      nginx.name = previous.name ∧ nginx.namespaceName = previous.namespaceName)
    (holds : HoldsInLine previous (view state)) {index : Nat} {before : Nginx}
    (at_index : snapshots[index]? = some nginx)
    (at_previous : (previous :: snapshots)[index]? = some before) :
    ∃ transcript, (rollOut answer snapshots state)[index]? = some transcript ∧
      transcript.result = .ok () ∧ HoldsInLine nginx (view transcript.state) ∧
      (transcript.Replaces ↔ nginx.effectiveSpec ≠ before.effectiveSpec) := by
  induction snapshots generalizing previous state index with
  | nil => simp at at_index
  | cons first later ih =>
      obtain ⟨named, placed⟩ := same first List.mem_cons_self
      have key := Nginx.deploymentKey_inj.mpr ⟨placed, named⟩
      obtain ⟨ended, kept, replaced⟩ :=
        reconcileDeployment_follows serves (admissible first List.mem_cons_self) holds key named
      cases index with
      | zero =>
          cases at_index
          cases at_previous
          exact ⟨_, rfl, ended, kept, replaced⟩
      | succ index =>
          refine ih (fun nginx among => admissible nginx (List.mem_cons_of_mem _ among)) ?_ kept
            at_index at_previous
          intro nginx among
          obtain ⟨sameName, sameNamespace⟩ := same nginx (List.mem_cons_of_mem _ among)
          exact ⟨sameName.trans named.symm, sameNamespace.trans placed.symm⟩

/-- Snapshots of one instance, whatever they ask for, are handled one after another on a server that
    has no deployment of the instance in the beginning. Each ends well and leaves the number of pods
    and the template that it asks for, and each but the first replaces the deployment exactly if its
    specification comes to something else than the one before. -/
theorem last_specification_wins (serves : Through (Serves Stamps) view answer)
    (admissible : ∀ nginx ∈ snapshots, nginx.Admissible)
    (same : ∀ nginx ∈ snapshots, nginx.name = name ∧ nginx.namespaceName = namespaceName)
    (free : (view state).get? ⟨"deployments", namespaceName, name ++ "-deployment"⟩ = none)
    {index : Nat} (at_index : snapshots[index]? = some nginx) :
    ∃ transcript, (rollOut answer snapshots state)[index]? = some transcript ∧
      transcript.result = .ok () ∧ HoldsInLine nginx (view transcript.state) ∧
      ∀ earlier before, index = earlier + 1 → snapshots[earlier]? = some before →
        (transcript.Replaces ↔ nginx.effectiveSpec ≠ before.effectiveSpec) := by
  cases snapshots with
  | nil => simp at at_index
  | cons first later =>
      obtain ⟨named, placed⟩ := same first List.mem_cons_self
      rw [← named, ← placed] at free
      obtain ⟨ended, kept⟩ :=
        reconcileDeployment_begins serves (admissible first List.mem_cons_self) free
      cases index with
      | zero =>
          cases at_index
          exact ⟨_, rfl, ended, kept, by simp⟩
      | succ index =>
          have asOne : ∀ nginx ∈ later,
              nginx.name = first.name ∧ nginx.namespaceName = first.namespaceName := by
            intro nginx among
            obtain ⟨sameName, sameNamespace⟩ := same nginx (List.mem_cons_of_mem _ among)
            exact ⟨sameName.trans named.symm, sameNamespace.trans placed.symm⟩
          have inside : index + 1 < (first :: later).length :=
            (List.getElem?_eq_some_iff.mp at_index).1
          have preceded : (first :: later)[index]? = some (first :: later)[index] :=
            List.getElem?_eq_getElem (Nat.lt_of_succ_lt inside)
          obtain ⟨transcript, found, ok, inLine, replaced⟩ := rollOut_follows serves
            (fun nginx among => admissible nginx (List.mem_cons_of_mem _ among)) asOne kept
            at_index preceded
          refine ⟨transcript, found, ok, inLine, ?_⟩
          intro earlier before isEarlier at_earlier
          cases isEarlier
          rw [preceded] at at_earlier
          cases at_earlier
          exact replaced

end Runs

/-- An instance that is given an empty image, which changes nothing, and then a configuration. -/
def editedNginx : List Nginx :=
  [declaredNginx,
    { declaredNginx with spec := { replicas := some 2, image := some "" } },
    { declaredNginx with spec := { replicas := some 2, config := some ⟨"web-config"⟩ } }]

theorem last_specification_wins_configured :
    ∃ transcript, (rollOut ObjectStore.serve editedNginx {})[2]? = some transcript ∧
      transcript.result = .ok () ∧
      HoldsInLine { declaredNginx with
        spec := { replicas := some 2, config := some ⟨"web-config"⟩ } } transcript.state ∧
      ∀ earlier before, 2 = earlier + 1 → editedNginx[earlier]? = some before →
        (transcript.Replaces ↔
          Nginx.effectiveSpec { declaredNginx with
            spec := { replicas := some 2, config := some ⟨"web-config"⟩ } } ≠
              before.effectiveSpec) := by
  have admissible : ∀ nginx ∈ editedNginx, nginx.Admissible := by
    intro nginx among
    simp only [editedNginx, List.mem_cons, List.not_mem_nil, or_false] at among
    rcases among with rfl | rfl | rfl <;>
      exact ⟨admissible_declaredNginx.name, admissible_declaredNginx.namespaceName⟩
  have same : ∀ nginx ∈ editedNginx, nginx.name = "web" ∧ nginx.namespaceName = "default" := by
    intro nginx among
    simp only [editedNginx, List.mem_cons, List.not_mem_nil, or_false] at among
    rcases among with rfl | rfl | rfl <;> exact ⟨rfl, rfl⟩
  exact last_specification_wins through_serve_stamps admissible same rfl rfl

end NginxFleet
