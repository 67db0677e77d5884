/-
Module: NginxFleet.Client.Error
Layer: Client
Purpose: What can go wrong with one request: the server refuses it, the answer cannot be read, the
  request cannot be sent or not even be built. Each cause has one sentence. A refusal in which the
  object is already there is recognised by what the body says, not by the status of the answer.
Main exports: ErrorReply, ClientError, ClientError.message, ClientError.chain,
  ClientError.isAlreadyExists
-/
import NginxFleet.Http.Message
import NginxFleet.Json.Reader
import NginxFleet.Text.Quoted

namespace NginxFleet

open Json

/-- What a server says when it refuses a request. -/
structure ErrorReply where
  status : String
  message : String
  reason : String
  code : Nat
deriving DecidableEq, Repr, Inhabited

namespace ErrorReply

/-- A code: a whole number of 16 bits. -/
def readCode : Json → Option Nat
  | .int i => if 0 ≤ i ∧ i < 65536 then some i.toNat else none
  | _ => none

/-- Reads the body of a refusal. -/
def ofJson? (document : Json) : Option ErrorReply := do
  let m ← strictMembers ["status", "message", "reason", "code"] 4 document
  let status ← required readText "status" m
  let message ← orMissing readText "" "message" m
  let reason ← orMissing readText "" "reason" m
  let code ← required readCode "code" m
  some { status, message, reason, code }

/-- The short form: message and reason. -/
def summary (reply : ErrorReply) : String :=
  reply.message ++ ": " ++ reply.reason

/-- All fields, with texts in quotes. -/
def details (reply : ErrorReply) : String :=
  "ErrorResponse \x7b status: " ++ Text.quoted reply.status ++
    ", message: " ++ Text.quoted reply.message ++
    ", reason: " ++ Text.quoted reply.reason ++
    ", code: " ++ toString reply.code ++ " \x7d"

end ErrorReply

/-- Why a request has no result. -/
inductive ClientError where
  /-- The server refused the request. -/
  | refused (reply : ErrorReply)
  /-- The answer is not of the expected type. -/
  | unreadable
  /-- The answer is not text. -/
  | notText (fault : Text.Utf8Fault)
  /-- The request or the answer did not get through. -/
  | transport (reason : String)
  /-- A name that must be there is empty. -/
  | emptyName
  /-- The request has no valid target. -/
  | badTarget (fault : TargetFault)
  /-- A request of the discovery has no valid target. -/
  | badDiscoveryTarget (fault : TargetFault)
  /-- The discovery lists a group without versions. -/
  | emptyGroup (name : String)
  /-- An encrypted connection is required but cannot be made. -/
  | encryptionRequired
  /-- A line of a stream does not end. -/
  | endlessLine
deriving DecidableEq, Repr, Inhabited

namespace ClientError

/-- The words for an answer that is not of the expected type. Details are not part of them. -/
def unreadableText : String := "Error deserializing response"

/-- The sentence for an error. -/
def message : ClientError → String
  | .refused reply => "ApiError: " ++ reply.summary ++ " (" ++ reply.details ++ ")"
  | .unreadable => unreadableText
  | .notText fault => "UTF-8 Error: " ++ fault.message
  | .transport reason => "ServiceError: " ++ reason
  | .emptyName =>
    "Failed to build request: failed to validate request: A non-empty name is required"
  | .badTarget fault =>
    "Failed to build request: failed to build request: " ++ fault.message
  | .badDiscoveryTarget fault => "HttpError: " ++ fault.message
  | .emptyGroup name => "Error from discovery: Empty Api Group: " ++ name
  | .encryptionRequired => "TLS required but no TLS stack selected"
  | .endlessLine => "Error finding newline character"

/-- The sentence for an error, followed by the sentences for its causes. -/
def chain (error : ClientError) : List String :=
  error.message ::
    match error with
    | .refused reply => [reply.summary]
    | .transport reason => [reason]
    | _ => []

/-- Whether a create was refused because the object is already there. -/
def isAlreadyExists : ClientError → Bool
  | .refused reply => reply.code == 409 && reply.reason == "AlreadyExists"
  | _ => false

end ClientError

end NginxFleet
