/-
Module: NginxFleet.Controller.Schedule
Layer: Controller
Purpose: When instances are dispatched. Each is dispatched as soon as it is known, and then again and
  again: after a success one time goes by, and after a failure another. The requests of all of them
  can be told apart by the namespaces that they ask for.
Main exports: Config.delayAfter, dispatchesFrom, dispatches, Config.schedule, byNamespace
-/
import NginxFleet.Config.Basic
import NginxFleet.Controller.Watch
import NginxFleet.Object.Place
import NginxFleet.Reconcile.Dispatch

namespace NginxFleet

/-- The seconds between a dispatch and the next, by the result of the first. -/
def Config.delayAfter (config : Config) : Except OperatorError Unit → Nat
  | .ok () => config.resyncPeriod.toNat
  | .error _ => config.errorRequeue.toNat

/-- The requests of an instance from one second to a last one, of a number of dispatches at most. -/
def dispatchesFrom {σ : Type} (answer : σ → Request → Outcome × σ) (config : Config) (nginx : Nginx)
    (last : Nat) : Nat → Nat → σ → List TimedRequest
  | 0, _, _ => []
  | runs + 1, second, server =>
    if last < second then []
    else
      let run := (dispatch (.ofNginx nginx)).run answer server
      run.timedRequests second ++
        dispatchesFrom answer config nginx last runs (second + config.delayAfter run.result)
          run.state

/-- The requests of an instance until a last second is over. A second at least goes by between two
    dispatches, so there are not more of them than seconds, and one. -/
def dispatches {σ : Type} (answer : σ → Request → Outcome × σ) (config : Config) (nginx : Nginx)
    (last : Nat) (server : σ) : List TimedRequest :=
  dispatchesFrom answer config nginx last (last + 1) 0 server

/-- The requests of all instances in a list, each against a server of its own, by the seconds at
    which they are sent. -/
def Config.schedule {σ : Type} (config : Config) (answer : σ → Request → Outcome × σ)
    (documents : List Json) (last : Nat) (server : σ) : List TimedRequest :=
  ((config.listedNginxes documents).flatMap fun nginx =>
    dispatches answer config nginx last server).mergeSort fun a b => a.second ≤ b.second

/-- Requests by the namespaces that their paths ask for, in the order of the first requests. -/
def byNamespace (requests : List TimedRequest) : List (String × List TimedRequest) :=
  let asked := requests.map fun timed => (Place.namespaceOf? timed.request.target.path, timed)
  (asked.filterMap Prod.fst).eraseDups.map fun namespaceName =>
    (namespaceName, (asked.filter fun entry => entry.1 = some namespaceName).map Prod.snd)

end NginxFleet
