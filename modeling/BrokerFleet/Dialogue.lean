import BrokerFleet.Failure
import BrokerFleet.Kubernetes.Write
import BrokerFleet.Management.Envelope
import BrokerFleet.Management.Request

/-!
Passes as dialogues with the world. A dialogue is done, or it makes a call and goes on with the reply,
whatever that is; `run` lets a world answer. Nothing happens beside the calls.
-/

namespace BrokerFleet

open Kubernetes

inductive EventType where
  | normal
  | warning
  deriving DecidableEq, Repr, Inhabited

def EventType.word : EventType → String
  | .normal => "Normal"
  | .warning => "Warning"

structure Event where
  type : EventType
  reason : String
  note : String
  deriving DecidableEq, Repr, Inhabited

inductive Call where
  | clock
  | freshKey
  | getCluster (ns name : String)
  | getSecret (ns name : String)
  | find (kind : ObjectKind) (ns name : String)
  | listJobs (ns : String)
  | listSets (ns selector : String)
  | listPods (ns selector : String)
  | write (ns : String) (w : Write)
  /-- Tells users about something; that may fail, and then nothing follows from it. -/
  | tell (event : Event)
  | send (peer : Endpoint) (port : Nat) (credentials : Credentials) (request : ManagementRequest)
  deriving Inhabited

abbrev Call.Reply : Call → Type
  | .clock => Instant
  | .freshKey => String
  | .getCluster .. => Except ApiError Cluster
  | .getSecret .. => Except ApiError Secret
  | .find .. => Except ApiError Unit
  | .listJobs _ => Except ApiError (List Job)
  | .listSets .. => Except ApiError (List StatefulSet)
  | .listPods .. => Except ApiError (List Pod)
  | .write _ w => Except ApiError w.Answer
  | .tell _ => Unit
  | .send .. => Except TransportFailure Response

inductive Dialogue (α : Type) where
  | done (result : α)
  | ask (call : Call) (next : call.Reply → Dialogue α)

namespace Dialogue

variable {α β : Type}

def bind (d : Dialogue α) (f : α → Dialogue β) : Dialogue β :=
  match d with
  | .done a => f a
  | .ask call next => .ask call fun reply => (next reply).bind f

instance : Monad Dialogue where
  pure := .done
  bind := bind

def call (c : Call) : Dialogue c.Reply :=
  .ask c .done

def run {m : Type → Type} [Monad m] (answer : (c : Call) → m c.Reply) : Dialogue α → m α
  | .done a => pure a
  | .ask c next => do (next (← answer c)).run answer

end Dialogue

/-- A dialogue that may fail. -/
abbrev Attempt (ε : Type) := ExceptT ε Dialogue

/-- A part of a pass. -/
abbrev Pass := Attempt Failure

namespace Attempt

variable {ε ε' α : Type}

def call (c : Call) : Attempt ε c.Reply :=
  ExceptT.lift (Dialogue.call c)

def ofExcept (f : ε → ε') (result : Except ε α) : Attempt ε' α :=
  ExceptT.mk (.done (result.mapError f))

def mapFailure (f : ε → ε') (a : Attempt ε α) : Attempt ε' α :=
  ExceptT.mk (a.run.bind fun result => .done (result.mapError f))

def outcome (a : Attempt ε α) : Attempt ε' (Except ε α) :=
  ExceptT.lift a.run

def fail (e : ε) : Attempt ε α :=
  ExceptT.mk (.done (.error e))

def now : Attempt ε Instant :=
  call .clock

def tell (type : EventType) (reason note : String) : Attempt ε Unit :=
  call (.tell ⟨type, reason, note⟩)

end Attempt

def Kubernetes.ApiError.orMissing {α : Type} (result : Except ApiError α) :
    Except ApiError (Option α) :=
  match result with
  | .ok a => .ok (some a)
  | .error e => if e.isNotFound then .ok none else .error e

end BrokerFleet
