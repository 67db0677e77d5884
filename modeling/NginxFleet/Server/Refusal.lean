/-
Module: NginxFleet.Server.Refusal
Layer: Server
Purpose: The answers by which a server refuses a request: a status document with a message, a reason
  and the code of the answer.
Main exports: refusal, unknownObject
-/
import NginxFleet.Http.Message

namespace NginxFleet

/-- The status document of a refusal. -/
def refusalDocument (code : Nat) (reason message : String) : Json :=
  .obj [
    ("apiVersion", .str "v1"),
    ("code", .int code),
    ("kind", .str "Status"),
    ("message", .str message),
    ("reason", .str reason),
    ("status", .str "Failure")]

/-- The answer by which a server refuses a request. -/
def refusal (code : Nat) (reason message : String) : Outcome :=
  .answer code (.document (refusalDocument code reason message))

/-- The answer to a request for something the server knows nothing of. -/
def unknownObject : Outcome :=
  refusal 404 "NotFound" "object \"unknown\" not found"

end NginxFleet
