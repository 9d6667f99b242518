import BrokerFleet.Cluster.Spec
import BrokerFleet.Decimal.Literal
import BrokerFleet.Management.Failure

/-!
Why a pass fails. Failures of the parts stand inside the failure of the pass; `classify` sorts them by
how they are to be handled.
-/

namespace BrokerFleet

open Decimal Kubernetes

inductive ObjectFailure where
  | noNamespace
  | internal (text : String)
  | namesExhausted (base : String) (attempts : Nat)
  | serialization (cause : String)
  deriving DecidableEq, Repr, Inhabited

def ObjectFailure.message : ObjectFailure → String
  | .noNamespace => "object has no namespace associated"
  | .internal text => "internal error: " ++ text
  | .namesExhausted base attempts =>
    "no free generation name for '" ++ base ++ "' after " ++ toString attempts ++
      " collision attempts"
  | .serialization cause => "serde_json error: " ++ cause

inductive AccessFailure where
  | api (cause : ApiError)
  | object (cause : ObjectFailure)
  | management (cause : ManagementFailure)
  | noSecret (name : String)
  | noSecretKey (name key : String)
  | secretEncoding (name key : String)
  | secretForm (name key : String)
  | serialization (cause : String)
  deriving DecidableEq, Repr, Inhabited

namespace AccessFailure

def message : AccessFailure → String
  | .api cause => "Kubernetes API error: " ++ cause.message
  | .object cause => cause.message
  | .management cause => cause.message
  | .noSecret name => "credential secret '" ++ name ++ "' not found"
  | .noSecretKey name key =>
    "credential secret '" ++ name ++ "' missing required key '" ++ key ++ "'"
  | .secretEncoding name key =>
    "credential secret '" ++ name ++ "' has invalid data encoding for key '" ++ key ++ "'"
  | .secretForm name key =>
    "credential secret '" ++ name ++ "' key '" ++ key ++ "' is not of the form user:secret"
  | .serialization cause => cause

def isNotFound : AccessFailure → Bool
  | .api cause => cause.isNotFound
  | _ => false

def isConflict : AccessFailure → Bool
  | .api cause => cause.isConflict
  | _ => false

end AccessFailure

inductive Failure where
  | access (cause : AccessFailure)
  | object (cause : ObjectFailure)
  | management (cause : ManagementFailure)
  | noTarget (name : String)
  | cannotRebalance (name edition : String)
  | concurrentJob (cluster other : String)
  | threshold (cause : LiteralError)
  | noCoordinator (cluster : String)
  | stopDeferred (attempts : Nat) (retryIn : Span)
  | applying (cause : Failure)
  | cleaningUp (cause : Failure)
  | addingFinalizer (cause : ApiError)
  | removingFinalizer (cause : ApiError)
  | unnamedObject
  | badFinalizer
  deriving DecidableEq, Repr, Inhabited

inductive FailureClass where
  | transient
  /-- What is asked for cannot be done; it is recorded and not tried again. -/
  | precondition
  /-- The broker refused; it is asked again at the steady pace. -/
  | controlPlane
  /-- The settings or the program are wrong; it is recorded and not tried again. -/
  | unrecoverable
  deriving DecidableEq, Repr, Inhabited

def FailureClass.word : FailureClass → String
  | .transient => "Transient"
  | .precondition => "Precondition"
  | .controlPlane => "ControlPlane"
  | .unrecoverable => "Unrecoverable"

def ManagementFailure.classify (e : ManagementFailure) : FailureClass :=
  if e.isNothingToBalance then .precondition
  else match e with
    | .refused .. | .httpStatus .. | .decoding .. => .controlPlane
    | .transport (.client _) | .badPath .. => .unrecoverable
    | .transport _ => .transient

def AccessFailure.classify : AccessFailure → FailureClass
  | .object _ | .serialization _ => .unrecoverable
  | .management cause => cause.classify
  | .api _ | .noSecret _ | .noSecretKey .. | .secretEncoding .. | .secretForm .. => .transient

namespace Failure

def message : Failure → String
  | .access cause => cause.message
  | .object cause => cause.message
  | .management cause => cause.message
  | .noTarget name => "target cluster '" ++ name ++ "' not found"
  | .cannotRebalance name edition =>
    "target cluster '" ++ name ++ "' is a " ++ edition ++ " edition, which cannot rebalance"
  | .concurrentJob cluster other =>
    "rebalance '" ++ other ++ "' is already processing on cluster '" ++ cluster ++ "'"
  | .threshold cause => "invalid rebalance threshold: " ++ cause.message
  | .noCoordinator cluster =>
    "cluster '" ++ cluster ++ "' has no running node to coordinate with"
  | .stopDeferred attempts retryIn =>
    "rebalance stop failed " ++ toString attempts ++ " times, next attempt in " ++ retryIn.render
  | .applying cause => "finalizer error: failed to apply object: " ++ cause.message
  | .cleaningUp cause => "finalizer error: failed to clean up object: " ++ cause.message
  | .addingFinalizer cause => "finalizer error: failed to add finalizer: " ++ cause.message
  | .removingFinalizer cause => "finalizer error: failed to remove finalizer: " ++ cause.message
  | .unnamedObject => "finalizer error: object has no name"
  | .badFinalizer => "finalizer error: invalid finalizer"

/-- The class of a failure. What stands around a failure does not change its class. -/
def classify : Failure → FailureClass
  | .access cause => cause.classify
  | .object _ => .unrecoverable
  | .management cause => cause.classify
  | .noTarget _ | .cannotRebalance .. | .concurrentJob .. | .threshold _ => .precondition
  | .noCoordinator _ | .stopDeferred .. => .transient
  | .applying cause | .cleaningUp cause => cause.classify
  | .addingFinalizer _ | .removingFinalizer _ => .transient
  | .unnamedObject | .badFinalizer => .unrecoverable

def stopRetryIn? : Failure → Option Span
  | .stopDeferred _ retryIn => some retryIn
  | .cleaningUp cause => cause.stopRetryIn?
  | _ => none

end Failure

end BrokerFleet
