import BrokerFleet.Cluster.Lifecycle
import BrokerFleet.Management.Client
import BrokerFleet.Schedule

/-!
What one pass over a cluster knows as it goes from step to step, and the calls that steps have in
common.
-/

namespace BrokerFleet

open Kubernetes

structure ManagementLink where
  client : ManagementClient
  endpoint : Endpoint
  deriving DecidableEq, Repr, Inhabited

structure ClusterPass where
  status : ClusterStatus
  generations : List Generation
  update : Option String
  link : Option ManagementLink
  initReady : Bool
  requeue : Requeue
  halted : Bool
  deriving DecidableEq, Repr, Inhabited

namespace ClusterPass

def start (status : ClusterStatus) : ClusterPass where
  status
  generations := []
  update := none
  link := none
  initReady := false
  requeue := .steady
  halted := false

def ask (p : ClusterPass) (requeue : Requeue) : ClusterPass :=
  { p with requeue := p.requeue.merge requeue }

def halt (p : ClusterPass) : ClusterPass :=
  { p with halted := true }

end ClusterPass

namespace Pass

variable {α : Type}

def api (result : Except ApiError α) : Pass α :=
  Attempt.ofExcept (fun e => .access (.api e)) result

def optional (result : Except ApiError α) : Pass (Option α) :=
  api (ApiError.orMissing result)

def object (result : Except ObjectFailure α) : Pass α :=
  Attempt.ofExcept .object result

def write (ns : String) (w : Write) : Pass w.Answer := do
  api (← Attempt.call (.write ns w))

def isThere (kind : ObjectKind) (ns name : String) : Pass Bool := do
  return (← optional (← Attempt.call (.find kind ns name))).isSome

def management (a : Attempt ManagementFailure α) : Pass α :=
  a.mapFailure .management

def access (a : Attempt AccessFailure α) : Pass α :=
  a.mapFailure .access

end Pass

def Cluster.nodeOf (c : Cluster) (pod : String) : Except ObjectFailure String :=
  c.placed.map fun ns => Cluster.nodeAt (c.hostOf ns pod)

end BrokerFleet
