/-
Module: NginxFleet.Server.PollScript
Layer: Server
Purpose: A server that follows one script after another: each time it is asked for its groups it goes
  on to the next script, as long as there is one.
Main exports: PollScript, PollScript.answer
-/
import NginxFleet.Discovery.Served
import NginxFleet.Server.Script

namespace NginxFleet

/-- The script in use, and the scripts still to come. -/
structure PollScript where
  current : Script := []
  upcoming : List Script
deriving Repr, Inhabited

namespace PollScript

/-- Whether a request asks for the groups. -/
def startsPoll (request : Request) : Bool :=
  request.method == .get && request.target.path == groupsPath

/-- The server in its next script. -/
def advance (server : PollScript) : PollScript :=
  match server.upcoming with
  | [] => server
  | next :: upcoming => ⟨next, upcoming⟩

/-- The outcome of a request, and the server afterwards. -/
def answer (server : PollScript) (request : Request) : Outcome × PollScript :=
  let server := if startsPoll request then server.advance else server
  let (outcome, current) := server.current.answer request
  (outcome, { server with current })

end PollScript

end NginxFleet
