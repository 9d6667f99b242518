import BrokerFleet.Failure

/-!
When an object is looked at again: what the steps of a pass ask for, what comes of it, and what
follows a failure.
-/

namespace BrokerFleet

inductive Action where
  | await
  | requeue (after : Span)
  deriving DecidableEq, Repr, Inhabited

instance : ToJson Span := ⟨fun d => .string d.render⟩

instance : ToJson Action where
  toJson
    | .await => .string "await"
    | .requeue after => .object [("requeue", toJson after)]

inductive Requeue where
  | steady
  | retryAfter (after : Span)
  /-- Told to the user; only a change of the object helps. -/
  | fatal (text : String)
  deriving DecidableEq, Repr, Inhabited

namespace Requeue

instance : ToJson Requeue where
  toJson
    | .steady => .string "Ok"
    | .retryAfter after => .object [("RetryAfter", toJson after)]
    | .fatal text => .object [("Fatal", .string text)]

def merge : Requeue → Requeue → Requeue
  | .fatal text, _ => .fatal text
  | _, .fatal text => .fatal text
  | .retryAfter a, .retryAfter b => .retryAfter (a.min b)
  | .retryAfter a, .steady => .retryAfter a
  | .steady, other => other

def action (steady : Span) : Requeue → Action
  | .steady => .requeue steady
  | .retryAfter after => .requeue (after.min steady)
  | .fatal _ => .await

end Requeue

structure Pace where
  steady : Span
  retry : Span
  deriving DecidableEq, Repr, Inhabited

namespace Pace

def actionFor (pace : Pace) : FailureClass → Action
  | .transient => .requeue pace.retry
  | .controlPlane => .requeue pace.steady
  | .precondition | .unrecoverable => .await

def afterFailure (pace : Pace) (e : Failure) : Action :=
  pace.actionFor e.classify

/-- What follows a failed pass over a job: a job that is being deleted waits until its next attempt
to stop is due. -/
def afterJobFailure (pace : Pace) (e : Failure) : Action :=
  match e.stopRetryIn? with
  | some retryIn => .requeue retryIn
  | none => pace.afterFailure e

end Pace

/-- The delay doubles with each attempt, sixteen times at most, and never exceeds the ceiling. -/
def backoff (base ceiling : Span) (attempts : Nat) : Span :=
  (base.times (Nat.pow 2 (Nat.min attempts 16))).min ceiling

end BrokerFleet
