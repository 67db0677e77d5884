/-
Module: NginxFleet.Proofs.Startup.Waiting
Layer: Proofs
Purpose: How long the operator waits at startup. The wait and the second that the loop carries are
  functions of the number of checks made, whether these found nothing or failed; from this a run
  against any server is known check by check. It ends with the first check that finds the resources
  and with no other, and as long as there is none it goes on.
Main exports: waitSeconds, checkSecond, WaitState.reached?, WaitState.reached?_eq, checkAt,
  checksReport, awaitFrom_eq_checksReport, waiting_ends_when_served
-/
import Mathlib.Algebra.BigOperators.Intervals
import NginxFleet.Startup.Wait

namespace NginxFleet

/-!
### The schedule
-/

/-- The seconds of a wait, by the number of waits before it. -/
def waitSeconds (count : Nat) : Nat := min (10 * 2 ^ count) 60

/-- The second at which a check starts, by the number of waits before it. -/
def checkSecond (count : Nat) : Nat := ∑ i ∈ Finset.range count, waitSeconds i

theorem nextInterval_waitSeconds (count : Nat) :
    nextInterval (waitSeconds count) = waitSeconds (count + 1) := by
  simp only [nextInterval, waitSeconds, longestInterval, pow_succ]
  omega

theorem checkSecond_succ (count : Nat) :
    checkSecond (count + 1) = checkSecond count + waitSeconds count :=
  Finset.sum_range_succ waitSeconds count

theorem waitSeconds_bounds (count : Nat) : 10 ≤ waitSeconds count ∧ waitSeconds count ≤ 60 := by
  have power : 0 < 2 ^ count := Nat.two_pow_pos count
  simp only [waitSeconds]
  omega

theorem waitSeconds_le_succ (count : Nat) : waitSeconds count ≤ waitSeconds (count + 1) := by
  simp only [waitSeconds, pow_succ]
  omega

/-- From the fourth wait on each takes the most seconds. -/
theorem waitSeconds_late (count : Nat) : waitSeconds (count + 3) = 60 := by
  have power : 0 < 2 ^ count := Nat.two_pow_pos count
  simp only [waitSeconds, pow_add]
  omega

theorem checkSecond_late (count : Nat) : checkSecond (count + 3) = 70 + 60 * count := by
  induction count with
  | zero => rfl
  | succ count ih =>
      rw [Nat.add_right_comm, checkSecond_succ, ih, waitSeconds_late]
      omega

/-- No wait is shorter than the first. -/
theorem le_checkSecond (count : Nat) : count * firstInterval ≤ checkSecond count := by
  induction count with
  | zero => exact Nat.zero_le _
  | succ count ih =>
      have wait := (waitSeconds_bounds count).1
      simp only [firstInterval] at ih ⊢
      rw [checkSecond_succ]
      omega

theorem strictMono_checkSecond : StrictMono checkSecond := by
  refine strictMono_nat_of_lt_succ fun count => ?_
  have wait := (waitSeconds_bounds count).1
  rw [checkSecond_succ]
  omega

/-- Only so many checks start until a last second. -/
theorem exists_inTime (last : Nat) : ∃ inTime, ∀ count, count < inTime ↔ checkSecond count ≤ last := by
  have ends : ∃ count, last < checkSecond count := by
    refine ⟨last + 1, lt_of_lt_of_le ?_ (le_checkSecond (last + 1))⟩
    simp only [firstInterval]
    omega
  refine ⟨Nat.find ends, fun count => ⟨?_, ?_⟩⟩
  · exact fun early => Nat.not_lt.mp (Nat.find_min ends early)
  · intro early
    by_contra late
    have passed := strictMono_checkSecond.monotone (Nat.not_lt.mp late)
    exact Nat.not_le.mpr (Nat.find_spec ends) (passed.trans early)

/-!
### The loop

What the loop carries from one check to the next depends on the checks only in so far as none of them
found the resources.
-/

namespace WaitState

/-- Where the waiting stands after some checks with given results, unless it has ended. -/
def reached? (results : Nat → Except OperatorError Bool) : Nat → Option WaitState
  | 0 => some {}
  | count + 1 => (reached? results count).bind fun state => state.next? (results count)

/-- A check that does not find the resources is followed by the wait of its number. -/
theorem next?_eq (result : Except OperatorError Bool) (count : Nat) :
    next? ⟨checkSecond count, waitSeconds count⟩ result =
      if result = .ok true then none
      else some ⟨checkSecond (count + 1), waitSeconds (count + 1)⟩ := by
  have missed : (⟨checkSecond count + waitSeconds count, nextInterval (waitSeconds count)⟩ :
      WaitState) = ⟨checkSecond (count + 1), waitSeconds (count + 1)⟩ := by
    rw [checkSecond_succ, nextInterval_waitSeconds]
  match result with
  | .ok true => rfl
  | .ok false => simpa [next?] using missed
  | .error error => simpa [next?] using missed

/-- The waiting ends with the first check that finds the resources. Before that its state is a
    function of the number of checks. -/
theorem reached?_eq (results : Nat → Except OperatorError Bool) (count : Nat) :
    reached? results count =
      if ∀ i < count, results i ≠ .ok true then some ⟨checkSecond count, waitSeconds count⟩
      else none := by
  induction count with
  | zero => rfl
  | succ count ih =>
      rw [reached?, ih]
      by_cases missed : ∀ i < count, results i ≠ .ok true
      · rw [if_pos missed, Option.bind_some, next?_eq]
        by_cases found : results count = .ok true
        · rw [if_pos found, if_neg fun all => all count (Nat.lt_succ_self count) found]
        · rw [if_neg found, if_pos]
          intro i before
          rcases Nat.lt_succ_iff_lt_or_eq.mp before with earlier | rfl
          · exact missed i earlier
          · exact found
      · rw [if_neg missed, Option.bind_none, if_neg]
        exact fun all => missed fun i before => all i (Nat.lt_succ_of_lt before)

end WaitState

/-!
### Runs against a server
-/

section Runs

variable {σ : Type} (answer : σ → Request → Outcome × σ) (server : σ)

/-- The check that comes after a number of others. -/
def checkAt (count : Nat) : Transcript (Except OperatorError Bool) σ :=
  checkNginxServed.run answer ((fun state => (checkNginxServed.run answer state).state)^[count] server)

/-- What is seen of checks that are made one after another, each at its second. -/
def checksReport (ended : Option Nat) (counts : List Nat) : WaitReport where
  ended
  requests := counts.flatMap fun count =>
    (checkAt answer server count).timedRequests (checkSecond count)
  entries := counts.map fun count =>
    WaitState.entry ⟨checkSecond count, waitSeconds count⟩ (checkAt answer server count).result

variable {answer server} {last : Nat}

theorem awaitFrom_late {checks count : Nat} {state : σ} (late : last < checkSecond count) :
    awaitFrom answer last checks ⟨checkSecond count, waitSeconds count⟩ state =
      checksReport answer server none [] := by
  cases checks with
  | zero => rfl
  | succ checks => exact if_pos late

theorem awaitFrom_found {checks count : Nat} (early : checkSecond count ≤ last)
    (found : (checkAt answer server count).result = .ok true) :
    awaitFrom answer last (checks + 1) ⟨checkSecond count, waitSeconds count⟩
        ((fun state => (checkNginxServed.run answer state).state)^[count] server) =
      checksReport answer server (some (checkSecond count)) [count] := by
  unfold checkAt at found
  simp [awaitFrom, Nat.not_lt.mpr early, found, WaitState.next?, checksReport, checkAt]

theorem awaitFrom_missed {checks count : Nat} (early : checkSecond count ≤ last)
    (missed : (checkAt answer server count).result ≠ .ok true) {ended : Option Nat}
    {counts : List Nat}
    (later : awaitFrom answer last checks ⟨checkSecond (count + 1), waitSeconds (count + 1)⟩
        ((fun state => (checkNginxServed.run answer state).state)^[count + 1] server) =
      checksReport answer server ended counts) :
    awaitFrom answer last (checks + 1) ⟨checkSecond count, waitSeconds count⟩
        ((fun state => (checkNginxServed.run answer state).state)^[count] server) =
      checksReport answer server ended (count :: counts) := by
  rw [Function.iterate_succ_apply'] at later
  unfold checkAt at missed
  simp [awaitFrom, Nat.not_lt.mpr early, WaitState.next?_eq, missed, later, checksReport, checkAt]

/-- Checks that miss are made one after another, and then what comes after them. The induction is on
    their number, from any check on. -/
theorem awaitFrom_eq_checksReport {ended : Option Nat} {counts : List Nat}
    (rest misses count : Nat)
    (early : ∀ i < misses, checkSecond (count + i) ≤ last)
    (missed : ∀ i < misses, (checkAt answer server (count + i)).result ≠ .ok true)
    (later : awaitFrom answer last rest
        ⟨checkSecond (count + misses), waitSeconds (count + misses)⟩
        ((fun state => (checkNginxServed.run answer state).state)^[count + misses] server) =
      checksReport answer server ended counts) :
    awaitFrom answer last (rest + misses) ⟨checkSecond count, waitSeconds count⟩
        ((fun state => (checkNginxServed.run answer state).state)^[count] server) =
      checksReport answer server ended (List.range' count misses ++ counts) := by
  induction misses generalizing count with
  | zero => exact later
  | succ misses ih =>
      refine awaitFrom_missed (early 0 (Nat.succ_pos _)) (missed 0 (Nat.succ_pos _)) ?_
      have shift : ∀ i, count + 1 + i = count + (i + 1) := fun i => by omega
      apply ih (count + 1)
      · intro i inside
        rw [shift]
        exact early (i + 1) (Nat.succ_lt_succ inside)
      · intro i inside
        rw [shift]
        exact missed (i + 1) (Nat.succ_lt_succ inside)
      · rw [shift]
        exact later

/-- What is seen if the first check that finds the resources starts in time. -/
theorem awaitNginx_found {misses : Nat} (early : checkSecond misses ≤ last)
    (missed : ∀ i < misses, (checkAt answer server i).result ≠ .ok true)
    (found : (checkAt answer server misses).result = .ok true) :
    awaitNginx answer last server =
      checksReport answer server (some (checkSecond misses)) (List.range (misses + 1)) := by
  have few : misses ≤ last / firstInterval :=
    (Nat.le_div_iff_mul_le (by decide)).mpr ((le_checkSecond misses).trans early)
  have enough : last / firstInterval + 1 = last / firstInterval - misses + 1 + misses := by omega
  have report := awaitFrom_eq_checksReport (last / firstInterval - misses + 1) misses 0
    (fun i before => by
      rw [Nat.zero_add]
      exact (strictMono_checkSecond before).le.trans early)
    (fun i before => by
      rw [Nat.zero_add]
      exact missed i before)
    (by
      rw [Nat.zero_add]
      exact awaitFrom_found early found)
  rw [awaitNginx, enough, List.range_succ, List.range_eq_range']
  exact report

/-- What is seen if no check that starts in time finds the resources. -/
theorem awaitNginx_missed {inTime : Nat} (counted : ∀ count, count < inTime ↔ checkSecond count ≤ last)
    (missed : ∀ i < inTime, (checkAt answer server i).result ≠ .ok true) :
    awaitNginx answer last server = checksReport answer server none (List.range inTime) := by
  have few : inTime ≤ last / firstInterval + 1 := by
    cases inTime with
    | zero => exact Nat.zero_le _
    | succ count =>
        have early := (counted count).mp (Nat.lt_succ_self count)
        exact Nat.succ_le_succ
          ((Nat.le_div_iff_mul_le (by decide)).mpr ((le_checkSecond count).trans early))
  have enough : last / firstInterval + 1 = last / firstInterval + 1 - inTime + inTime := by omega
  have late : last < checkSecond inTime :=
    Nat.not_le.mp fun early => Nat.lt_irrefl _ ((counted inTime).mpr early)
  have report := awaitFrom_eq_checksReport (last / firstInterval + 1 - inTime) inTime 0
    (fun i before => by
      rw [Nat.zero_add]
      exact (counted i).mp before)
    (fun i before => by
      rw [Nat.zero_add]
      exact missed i before)
    (by
      rw [Nat.zero_add]
      exact awaitFrom_late late)
  rw [List.append_nil] at report
  rw [awaitNginx, enough, List.range_eq_range']
  exact report

end Runs

/-- Whatever the results of the checks, the waiting goes on as long as none of them finds the
    resources, with the second and the wait of its number, and ends with the first that does. The
    waits are from ten to sixty seconds and never get shorter, and no doubling leaves the range of 64
    bits. Against any server, what is seen until a last second is: all checks up to the first that
    finds the resources, if this one starts in time, and the second at which it starts; or else all
    checks that start in time, and no end. -/
theorem waiting_ends_when_served :
    (∀ (results : Nat → Except OperatorError Bool) (count : Nat),
      WaitState.reached? results count =
        if ∀ i < count, results i ≠ .ok true then some ⟨checkSecond count, waitSeconds count⟩
        else none) ∧
    (∀ count, waitSeconds count = min (10 * 2 ^ count) 60 ∧
      10 ≤ waitSeconds count ∧ waitSeconds count ≤ 60 ∧
      waitSeconds count ≤ waitSeconds (count + 1) ∧
      waitSeconds count * 2 ≤ 120 ∧ waitSeconds count * 2 < 2 ^ 64) ∧
    (∀ count, checkSecond count = ∑ i ∈ Finset.range count, waitSeconds i ∧
      checkSecond (count + 3) = 70 + 60 * count) ∧
    checkSecond 0 = 0 ∧ checkSecond 1 = 10 ∧ checkSecond 2 = 30 ∧
    ∀ {σ : Type} (answer : σ → Request → Outcome × σ) (server : σ) (last : Nat),
      ∃ inTime, (∀ count, count < inTime ↔ checkSecond count ≤ last) ∧
        (∀ misses < inTime, (∀ i < misses, (checkAt answer server i).result ≠ .ok true) →
          (checkAt answer server misses).result = .ok true →
          awaitNginx answer last server =
            checksReport answer server (some (checkSecond misses)) (List.range (misses + 1))) ∧
        ((∀ i < inTime, (checkAt answer server i).result ≠ .ok true) →
          awaitNginx answer last server =
            checksReport answer server none (List.range inTime)) := by
  refine ⟨WaitState.reached?_eq, ?_, ?_, rfl, rfl, rfl, ?_⟩
  · intro count
    have bounds := waitSeconds_bounds count
    exact ⟨rfl, bounds.1, bounds.2, waitSeconds_le_succ count, by omega, by omega⟩
  · exact fun count => ⟨rfl, checkSecond_late count⟩
  · intro σ answer server last
    obtain ⟨inTime, counted⟩ := exists_inTime last
    exact ⟨inTime, counted, fun misses early => awaitNginx_found ((counted misses).mp early),
      awaitNginx_missed counted⟩

/-- A server that gives outcomes one after another. -/
def outcomesInTurn : List Outcome → Request → Outcome × List Outcome
  | outcome :: later, _ => (outcome, later)
  | [], _ => (.failure "connection refused", [])

/-- What a server gives that cannot be reached at first, then has no group of Nginx resources, and then
    has one. -/
def lateOutcomes : List Outcome := [
  .failure "connection refused",
  .answer 200 (.document (.obj [("groups", .arr [])])),
  .answer 200 (.document (.obj [("groups", .arr [.obj [("name", .str Nginx.group), ("versions", .arr [
    .obj [("groupVersion", .str Nginx.apiVersion), ("version", .str Nginx.version)]])]])])),
  .answer 200 (.document (.obj [("groupVersion", .str Nginx.apiVersion), ("resources", .arr [
    .obj [("name", .str Nginx.plural), ("kind", .str Nginx.kind)]])]))]

/-- The third check finds the resources, half a minute after the first. -/
theorem waiting_ends_when_served_late :
    (∀ i < 2, (checkAt outcomesInTurn lateOutcomes i).result ≠ .ok true) ∧
      (checkAt outcomesInTurn lateOutcomes 2).result = .ok true ∧ checkSecond 2 ≤ 60 ∧
      awaitNginx outcomesInTurn 60 lateOutcomes =
        checksReport outcomesInTurn lateOutcomes (some 30) (List.range 3) := by
  have missed : ∀ i < 2, (checkAt outcomesInTurn lateOutcomes i).result ≠ .ok true := by
    decide +kernel
  have found : (checkAt outcomesInTurn lateOutcomes 2).result = .ok true := by decide +kernel
  have early : checkSecond 2 ≤ 60 := by decide
  obtain ⟨-, -, -, -, -, -, runs⟩ := waiting_ends_when_served
  obtain ⟨inTime, counted, ends, -⟩ := runs outcomesInTurn lateOutcomes 60
  exact ⟨missed, found, early, ends 2 ((counted 2).mpr early) missed found⟩

end NginxFleet
