/-
Module: NginxFleet.Server.Script
Layer: Server
Purpose: A server that follows a script: for each method and path a list of outcomes, of which each
  request takes the next and the last one is given again and again. Whatever the script does not
  mention is unknown to the server.
Main exports: Route, Script.answer
-/
import NginxFleet.Server.Refusal

namespace NginxFleet

/-- One outcome for one method and path. -/
structure Route where
  method : Method
  path : String
  outcome : Outcome
deriving Repr, Inhabited

/-- Whether a route is for a request. -/
def Route.serves (route : Route) (request : Request) : Bool :=
  route.method == request.method && route.path == request.target.path

/-- The outcomes that are still to be given, in order. -/
abbrev Script := List Route

namespace Script

/-- The outcome of a request with what the script is afterwards, if it is mentioned. An outcome is
    used up unless it is the last for its method and path. -/
def take? (request : Request) : Script → Option (Outcome × Script)
  | [] => none
  | route :: rest =>
    if route.serves request then
      some (route.outcome,
        if rest.any fun later => later.serves request then rest else route :: rest)
    else (take? request rest).map fun found => (found.1, route :: found.2)

/-- The outcome of a request, and the script afterwards. -/
def answer (script : Script) (request : Request) : Outcome × Script :=
  (script.take? request).getD (unknownObject, script)

end Script

end NginxFleet
