/-
Module: NginxFleet.Proofs.Overlap.Agreement
Layer: Proofs
Purpose: Overlapping runs for one instance agree. Whatever the order of their requests, every run comes
  to an end; it ends well, or its replacement of the deployment met a conflict with a run that ends
  well. No object is created twice, and in the end the deployment is in line and the service is there.
  What every step keeps is that each run is at a point of the table and knows what it must there.
Main exports: Point.left, Consistent, Consistent.step, Overlap.Reached.consistent,
  Overlap.Reached.completes, overlapping_runs_converge
-/
import Mathlib.Algebra.BigOperators.Fin
import Mathlib.Algebra.Order.BigOperators.Group.Finset
import NginxFleet.Proofs.Convergence.Plan
import NginxFleet.Proofs.Overlap.Creation
import NginxFleet.Proofs.Overlap.Dependents

namespace NginxFleet

/-!
### How far a run has to go
-/

/-- The calls that a run has left at most, of those about the objects built for an instance. -/
def Point.left : Point → Nat
  | .pending .createDeployment => 4
  | .pending .fetchDeployment => 3
  | .pending (.replaceDeployment _) => 2
  | .pending .createService | .pending .listPods | .pending (.recordPods _) => 1
  | .ended _ => 0

theorem Point.left_before_lt {next? : Option Call} {bound : Nat} (positive : 0 < bound)
    (less : ∀ next, next? = some next → next.aboutDependents → (pending next).left < bound) :
    (before Call.aboutDependents next?).left < bound := by
  unfold before
  cases there : next?.filter Call.aboutDependents with
  | none => exact positive
  | some next =>
      obtain ⟨same, inScope⟩ := Option.filter_eq_some_iff.mp there
      exact less next same inScope

theorem Call.left_followUp?_lt {nginx : Nginx} {call next : Call} {result : Except ClientError Reply}
    (follows : call.followUp? nginx result = some next) (inScope : next.aboutDependents) :
    (Point.pending next).left < (Point.pending call).left := by
  cases call with
  | createDeployment =>
      cases result <;> cases follows <;> simp [Point.left]
  | fetchDeployment =>
      cases result with
      | error cause => cases follows
      | ok reply =>
          cases reply with
          | deployment existing =>
              simp only [followUp?] at follows
              split at follows <;> cases follows <;> simp [Point.left]
          | service _ | pods _ | nginx _ => cases follows
  | replaceDeployment repaired =>
      cases follows
      simp [Point.left]
  | createService =>
      cases follows
      cases inScope
  | listPods =>
      cases result with
      | error cause => cases follows
      | ok reply =>
          cases reply with
          | pods found =>
              simp only [followUp?] at follows
              split at follows <;> cases follows
              cases inScope
          | deployment _ | service _ | nginx _ => cases follows
  | recordPods pods => cases follows

/-- A call leaves a run less to do. -/
theorem Call.left_after_lt (nginx : Nginx) (call : Call) (result : Except ClientError Reply) :
    (call.after Call.aboutDependents nginx result).left < (Point.pending call).left := by
  have positive : 0 < (Point.pending call).left := by
    cases call <;> exact Nat.succ_pos _
  unfold after
  cases call.failure? result with
  | some error => exact positive
  | none =>
      apply Point.left_before_lt positive
      intro next follows inScope
      exact left_followUp?_lt follows inScope

/-- Runs for one instance that have not begun, and the server that they will use. -/
def Nginx.overlapping (nginx : Nginx) (count : Nat) (before : VersionedStore) :
    Overlap VersionedStore (Except OperatorError Unit) count where
  server := before
  runs := fun _ => reconcileDependents nginx

section Invariant

variable (nginx : Nginx) {count : Nat}

/-- What holds of overlapping runs after some requests were executed. A run that is past the deployment
    is a winner. -/
structure Consistent (executed : List (Request × Outcome))
    (state : Overlap VersionedStore (Except OperatorError Unit) count) (points : Fin count → Point) :
    Prop where
  readable : ∀ document, state.server.store.get? nginx.deploymentKey = some document →
    (Deployment.ofJson? document.received).isSome
  stands : ∀ run, (state.runs run).At Call.aboutDependents nginx (points run)
  knows : ∀ run, Knows nginx state.server.store (∃ winner, (points winner).Past) (points run)
  created : ∀ key, key = nginx.deploymentKey ∨ key = nginx.serviceKey →
    CreatedOnce executed state.server.store key
  bounded : executed.length + ∑ run, (points run).left ≤ 4 * count

end Invariant

section Steps

variable {nginx : Nginx} {count : Nat} {executed : List (Request × Outcome)}
  {state : Overlap VersionedStore (Except OperatorError Unit) count} {points : Fin count → Point}

/-- When a run goes on to its next point, there is a winner if there was one or the run is past the
    deployment now. -/
theorem won_update {run : Fin count} {next : Point} (past : (points run).Past → next.Past)
    (won : (∃ winner, (points winner).Past) ∨ next.Past) :
    ∃ winner, (Function.update points run next winner).Past := by
  rcases won with ⟨winner, before⟩ | now
  · by_cases same : winner = run
    · subst same
      refine ⟨winner, ?_⟩
      rw [Function.update_self]
      exact past before
    · refine ⟨winner, ?_⟩
      rw [Function.update_of_ne same]
      exact before
  · refine ⟨run, ?_⟩
    rw [Function.update_self]
    exact now

theorem sum_left_update_lt {run : Fin count} {next : Point}
    (less : next.left < (points run).left) :
    ∑ other, (Function.update points run next other).left < ∑ other, (points other).left := by
  refine Finset.sum_lt_sum ?_ ⟨run, Finset.mem_univ run, ?_⟩
  · intro other _
    by_cases same : other = run
    · subst same
      rw [Function.update_self]
      exact less.le
    · rw [Function.update_of_ne same]
  · rw [Function.update_self]
    exact less

/-- A run that sends its next request keeps what holds of all of them. -/
theorem Consistent.step (admissible : nginx.Admissible)
    (consistent : Consistent nginx executed state points) {run : Fin count} {request : Request}
    {resume : Outcome → Session (Except OperatorError Unit)} {outcome : Outcome}
    {server : VersionedStore} (awaits : (state.runs run).awaiting? = some (request, resume))
    (served : state.server.Serves request outcome server) :
    ∃ next, Consistent nginx (executed ++ [(request, outcome)])
      { server, runs := Function.update state.runs run (resume outcome) }
      (Function.update points run next) := by
  obtain ⟨call, here, rfl, leads⟩ := (consistent.stands run).awaiting admissible awaits
  have known := consistent.knows run
  rw [here] at known
  have advances := Call.advances admissible consistent.readable known served
  have past := advances.past
  rw [← here] at past
  have won := won_update past
  refine ⟨call.after Call.aboutDependents nginx (call.read outcome), ?_, ?_, ?_, ?_, ?_⟩
  · intro document found
    rcases advances.evolves.deployment with same | ⟨⟨stored, existing, held, reading, -⟩, -⟩
    · rw [same] at found
      exact consistent.readable document found
    · rw [held] at found
      cases found
      simp [reading]
  · intro other
    by_cases same : other = run
    · subst same
      simp only [Function.update_self]
      exact leads outcome
    · simp only [Function.update_of_ne same]
      exact consistent.stands other
  · intro other
    by_cases same : other = run
    · subst same
      rw [Function.update_self]
      exact advances.knows.mono won
    · rw [Function.update_of_ne same]
      exact ((consistent.knows other).evolve advances.evolves .inl).mono won
  · intro key about
    refine (consistent.created key about).append ?_ (served.created admissible about)
    rcases about with rfl | rfl
    · exact advances.evolves.present
    · exact advances.evolves.service
  · have less := sum_left_update_lt (here ▸ call.left_after_lt nginx (call.read outcome))
    have bounded := consistent.bounded
    rw [List.length_append, List.length_singleton]
    omega

/-- Whatever the order of the requests, the runs stay consistent. -/
theorem Overlap.Reached.consistent (admissible : nginx.Admissible) {before : VersionedStore}
    (readable : ∀ document, before.store.get? nginx.deploymentKey = some document →
      (Deployment.ofJson? document.received).isSome)
    (reached : Overlap.Reached VersionedStore.Serves (nginx.overlapping count before) executed
      state) :
    ∃ points, Consistent nginx executed state points := by
  induction reached with
  | start =>
      refine ⟨fun _ => .pending .createDeployment, readable, fun _ => reconcileDependents_at,
        fun _ => trivial, fun key _ => .start _ key, ?_⟩
      simp [Point.left, Nat.mul_comm]
  | step reached awaits served ih =>
      obtain ⟨points, consistent⟩ := ih
      obtain ⟨next, kept⟩ := consistent.step admissible awaits served
      exact ⟨_, kept⟩

/-- The runs can always go on until all have ended, as every run has only so many calls to make. -/
theorem Overlap.Reached.completes (admissible : nginx.Admissible) {before : VersionedStore}
    (readable : ∀ document, before.store.get? nginx.deploymentKey = some document →
      (Deployment.ofJson? document.received).isSome)
    (reached : Overlap.Reached VersionedStore.Serves (nginx.overlapping count before) executed
      state) :
    ∃ more final, Overlap.Reached VersionedStore.Serves (nginx.overlapping count before)
      (executed ++ more) final ∧ ∀ run, (final.runs run).result?.isSome := by
  induction left : 4 * count - executed.length using Nat.strong_induction_on
    generalizing executed state with
  | _ gap ih =>
      by_cases ended : ∀ run, (state.runs run).result?.isSome
      · refine ⟨[], state, ?_, ended⟩
        rw [List.append_nil]
        exact reached
      · obtain ⟨run, waits⟩ := not_forall.mp ended
        rw [Session.result?_isSome_iff] at waits
        obtain ⟨sent, awaits⟩ := Option.ne_none_iff_exists'.mp waits
        have served := state.server.serves_answer sent.1
        have next := reached.step awaits served
        obtain ⟨points, consistent⟩ := next.consistent admissible readable
        have bounded := consistent.bounded
        rw [List.length_append, List.length_singleton] at bounded
        have closer : 4 * count - (executed ++ [(sent.1, (state.server.answer sent.1).1)]).length <
            gap := by
          rw [List.length_append, List.length_singleton]
          omega
        obtain ⟨more, final, later, done⟩ := ih _ closer next rfl
        rw [List.append_assoc] at later
        exact ⟨_, final, later, done⟩

/-- A run that fails has met a conflict when it replaced the deployment. -/
theorem Consistent.failed (admissible : nginx.Admissible)
    (consistent : Consistent nginx executed state points) {run : Fin count} {error : OperatorError}
    (ended : (state.runs run).result? = some (.error error)) :
    error = .update .deployment (Call.outdated nginx.deploymentKey) ∧
      ∃ winner, (points winner).Past := by
  have known := consistent.knows run
  rw [(consistent.stands run).result admissible ended] at known
  exact known

/-- When all runs have ended, one has ended well and the objects are in line. -/
theorem Consistent.settled (admissible : nginx.Admissible)
    (consistent : Consistent nginx executed state points) (someone : 0 < count)
    (ended : ∀ run, (state.runs run).result?.isSome) :
    (∃ run, (state.runs run).result? = some (.ok ())) ∧ Aligned nginx state.server.store ∧
      (state.server.store.get? nginx.serviceKey).isSome := by
  have well : ∀ run, (points run).Past → (state.runs run).result? = some (.ok ()) ∧
      Aligned nginx state.server.store ∧ (state.server.store.get? nginx.serviceKey).isSome := by
    intro run past
    obtain ⟨result, there⟩ := Option.isSome_iff_exists.mp (ended run)
    have known := consistent.knows run
    rw [(consistent.stands run).result admissible there] at past known
    cases result with
    | ok value => exact ⟨there, known⟩
    | error error => exact past.elim
  have won : ∃ winner, (points winner).Past := by
    obtain ⟨result, there⟩ := Option.isSome_iff_exists.mp (ended ⟨0, someone⟩)
    cases result with
    | ok value =>
        refine ⟨⟨0, someone⟩, ?_⟩
        rw [(consistent.stands _).result admissible there]
        trivial
    | error error => exact (consistent.failed admissible there).2
  obtain ⟨winner, past⟩ := won
  obtain ⟨there, aligned, present⟩ := well winner past
  exact ⟨⟨winner, there⟩, aligned, present⟩

end Steps

/-- Runs for one instance overlap, and a server that detects conflicts executes their requests in any
    order. Of each kind at most one object is created. No run goes on for ever or gets stuck, and one
    that fails has met a conflict when it replaced the deployment. When all have ended, one has ended
    well, the deployment is in line and the service is there. -/
theorem overlapping_runs_converge {nginx : Nginx} (admissible : nginx.Admissible) {count : Nat}
    (someone : 0 < count) {before : VersionedStore}
    (readable : ∀ document, before.store.get? nginx.deploymentKey = some document →
      (Deployment.ofJson? document.received).isSome)
    {executed : List (Request × Outcome)}
    {state : Overlap VersionedStore (Except OperatorError Unit) count}
    (reached : Overlap.Reached VersionedStore.Serves (nginx.overlapping count before) executed
      state) :
    executed.countP (Creates "deployments") ≤ 1 ∧ executed.countP (Creates "services") ≤ 1 ∧
      executed.length ≤ 4 * count ∧
      (∃ more final, Overlap.Reached VersionedStore.Serves (nginx.overlapping count before)
        (executed ++ more) final ∧ ∀ run, (final.runs run).result?.isSome) ∧
      (∀ run error, (state.runs run).result? = some (.error error) →
        error = .update .deployment (Call.outdated nginx.deploymentKey)) ∧
      ((∀ run, (state.runs run).result?.isSome) →
        (∃ run, (state.runs run).result? = some (.ok ())) ∧ Aligned nginx state.server.store ∧
          (state.server.store.get? nginx.serviceKey).isSome) := by
  obtain ⟨points, consistent⟩ := reached.consistent admissible readable
  refine ⟨?_, ?_, ?_, reached.completes admissible readable, ?_,
    consistent.settled admissible someone⟩
  · exact (consistent.created nginx.deploymentKey (.inl rfl)).count_le_one
  · exact (consistent.created nginx.serviceKey (.inr rfl)).count_le_one
  · exact (Nat.le_add_right _ _).trans consistent.bounded
  · intro run error ended
    exact (consistent.failed admissible ended).1

/-- Two runs for an instance whose deployment has drifted. -/
def contended : Overlap VersionedStore (Except OperatorError Unit) 2 :=
  declaredNginx.overlapping 2 { store := driftedStore }

/-- Both runs read the deployment before one of them replaces it. The other one meets a conflict. -/
theorem overlapping_runs_converge_after_conflict :
    ∃ executed state, Overlap.Reached VersionedStore.Serves contended executed state ∧
      (∀ run, (state.runs run).result?.isSome) ∧
      (state.runs 1).result? =
        some (.error (.update .deployment (Call.outdated declaredNginx.deploymentKey))) ∧
      executed.countP (Creates "deployments") ≤ 1 ∧ executed.countP (Creates "services") ≤ 1 ∧
      (∃ run, (state.runs run).result? = some (.ok ())) ∧
      Aligned declaredNginx state.server.store ∧
      (state.server.store.get? declaredNginx.serviceKey).isSome := by
  have begun : Overlap.Reached VersionedStore.Serves contended [] contended := .start
  have reached := begun.play VersionedStore.serves_answer [0, 1, 0, 1, 0, 1, 0]
  rw [List.nil_append] at reached
  have results :
      ((contended.play VersionedStore.answer [0, 1, 0, 1, 0, 1, 0]).2.runs 0).result? =
        some (.ok ()) ∧
      ((contended.play VersionedStore.answer [0, 1, 0, 1, 0, 1, 0]).2.runs 1).result? =
        some (.error (.update .deployment (Call.outdated declaredNginx.deploymentKey))) := by
    decide +kernel
  have ended : ∀ run, ((contended.play VersionedStore.answer
      [0, 1, 0, 1, 0, 1, 0]).2.runs run).result?.isSome :=
    Fin.forall_fin_two.mpr ⟨by rw [results.1]; rfl, by rw [results.2]; rfl⟩
  obtain ⟨deployments, services, -, -, -, settled⟩ := overlapping_runs_converge
    admissible_declaredNginx (by decide) readableIn_driftedStore.deployment reached
  exact ⟨_, _, reached, ended, results.2, deployments, services, settled ended⟩

end NginxFleet
