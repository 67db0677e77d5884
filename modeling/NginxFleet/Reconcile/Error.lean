/-
Module: NginxFleet.Reconcile.Error
Layer: Reconcile
Purpose: What can go wrong while an instance is brought in line: a call on the server fails, and the
  error says in which step. Every error has the failed call as its cause, so nothing that the server
  said is lost.
Main exports: DependentKind, OperatorError, OperatorError.message, OperatorError.causes
-/
import NginxFleet.Client.Error

namespace NginxFleet

/-- The kinds of objects that are built for an instance. -/
inductive DependentKind where
  | deployment
  | service
deriving DecidableEq, Repr, Inhabited

/-- The name of a kind in a sentence. -/
def DependentKind.name : DependentKind → String
  | .deployment => "deployment"
  | .service => "service"

/-- Why a step of the operator failed. -/
inductive OperatorError where
  /-- A call outside the reconciliation failed. -/
  | client (cause : ClientError)
  /-- A dependent object could not be created. -/
  | create (kind : DependentKind) (cause : ClientError)
  /-- A dependent object that exists could not be read. -/
  | retrieve (kind : DependentKind) (cause : ClientError)
  /-- A dependent object that has drifted could not be replaced. -/
  | update (kind : DependentKind) (cause : ClientError)
  /-- The pods of an instance could not be listed. -/
  | listPods (cause : ClientError)
  /-- The status of an instance could not be written. -/
  | updateStatus (cause : ClientError)
  /-- An object could not be written as a document. -/
  | serialization (reason : String)
deriving DecidableEq, Repr, Inhabited

namespace OperatorError

/-- The failed call behind an error. -/
def cause? : OperatorError → Option ClientError
  | .client cause | .create _ cause | .retrieve _ cause | .update _ cause | .listPods cause
  | .updateStatus cause => some cause
  | .serialization _ => none

/-- The kind of object that an error is about. -/
def kind? : OperatorError → Option DependentKind
  | .create kind _ | .retrieve kind _ | .update kind _ => some kind
  | _ => none

/-- The sentence for an error, which ends with that of its cause. -/
def message : OperatorError → String
  | .client cause => "Kubernetes API error: " ++ cause.message
  | .create kind cause => "failed to create " ++ kind.name ++ ": " ++ cause.message
  | .retrieve kind cause => "failed to retrieve " ++ kind.name ++ ": " ++ cause.message
  | .update kind cause => "failed to update " ++ kind.name ++ ": " ++ cause.message
  | .listPods cause => "failed to list pods: " ++ cause.message
  | .updateStatus cause => "failed to update nginx status: " ++ cause.message
  | .serialization reason => "Serialization failed: " ++ reason

/-- The sentences for the causes of an error, the nearest first. -/
def causes : OperatorError → List String
  | .client cause | .create _ cause | .retrieve _ cause | .update _ cause | .listPods cause
  | .updateStatus cause => cause.chain
  | .serialization reason => [reason]

end OperatorError

end NginxFleet
