/-
Module: NginxFleet.Startup.Wait
Layer: Startup
Purpose: Waiting at startup until the server serves Nginx resources. A check that finds nothing, or
  fails, is followed by a wait and another check; the waits double up to a limit, whatever the checks
  say, and only a check that finds the resources ends the wait.
Main exports: nextInterval, WaitState, WaitState.next?, awaitNginx
-/
import NginxFleet.Discovery.Served

namespace NginxFleet

/-- The seconds of the first wait. -/
def firstInterval : Nat := 10

/-- The most seconds of a wait. -/
def longestInterval : Nat := 60

/-- The seconds of the wait after one. -/
def nextInterval (interval : Nat) : Nat :=
  min (interval * 2) longestInterval

/-- The resource that is waited for, in words. -/
def awaitedResource : String :=
  Nginx.kind ++ " CRD"

/-- Where the waiting stands before a check: the seconds gone by, and those of the next wait. -/
structure WaitState where
  elapsed : Nat := 0
  interval : Nat := firstInterval
deriving DecidableEq, Repr, Inhabited

namespace WaitState

/-- Where the waiting stands before the next check, if one is needed. -/
def next? (state : WaitState) : Except OperatorError Bool → Option WaitState
  | .ok true => none
  | .ok false | .error _ =>
    some { elapsed := state.elapsed + state.interval, interval := nextInterval state.interval }

/-- The log line after a check. -/
def entry (state : WaitState) : Except OperatorError Bool → LogEntry
  | .ok true => {
      level := .info
      message := awaitedResource ++ " (" ++ Nginx.apiVersion ++ ") is available" }
  | .ok false => {
      level := .info
      message := awaitedResource ++ " (" ++ Nginx.apiVersion ++ ") not yet available, waiting " ++
        toString state.interval ++ " seconds..." }
  | .error error => {
      level := .warn
      message := "Error checking for " ++ awaitedResource ++ ": " ++ error.message ++
        ", retrying in " ++ toString state.interval ++ " seconds..." }

end WaitState

/-- What is seen of the waiting: when it ended, the requests, and the log lines. -/
structure WaitReport where
  ended : Option Nat := none
  requests : List TimedRequest := []
  entries : List LogEntry := []
deriving DecidableEq, Repr, Inhabited

/-- Checks and waits, for a number of checks at most and until a last second. -/
def awaitFrom {σ : Type} (answer : σ → Request → Outcome × σ) (last : Nat) :
    Nat → WaitState → σ → WaitReport
  | 0, _, _ => {}
  | checks + 1, state, server =>
    if last < state.elapsed then {}
    else
      let check := checkNginxServed.run answer server
      let later : WaitReport :=
        match state.next? check.result with
        | none => { ended := some state.elapsed }
        | some next => awaitFrom answer last checks next check.state
      { later with
        requests := check.timedRequests state.elapsed ++ later.requests
        entries := state.entry check.result :: later.entries }

/-- The waiting until it ends or a last second is over. No wait is shorter than the first, so there
    are not more checks than first waits in that time, and one. -/
def awaitNginx {σ : Type} (answer : σ → Request → Outcome × σ) (last : Nat) (server : σ) :
    WaitReport :=
  awaitFrom answer last (last / firstInterval + 1) {} server

end NginxFleet
