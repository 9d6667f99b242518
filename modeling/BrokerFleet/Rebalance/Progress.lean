import BrokerFleet.Failure
import BrokerFleet.Management.Request
import BrokerFleet.Rebalance.Job
import BrokerFleet.Schedule

/-!
The progress of a rebalance job: what a pass is to do with it, and how its status follows the run that the
broker reports. A run that the broker lists already is taken over and not started again.
-/

namespace BrokerFleet

open Kubernetes

inductive Precheck where
  | terminal
  | waitForCluster
  | start
  | poll
  deriving DecidableEq, Repr, Inhabited

namespace JobStatus

def setCondition (s : JobStatus) (c : Condition) (now : Instant) : JobStatus :=
  { s with conditions := s.conditions.set c now }

def markProcessing (s : JobStatus) (now : Instant) : JobStatus :=
  { s with phase := some .processing, startedAt := some (Rfc3339.format now) }.setCondition
    (.new Condition.processing true "RebalanceStarted" "") now

def markFailed (s : JobStatus) (text : String) (now : Instant) : JobStatus :=
  { s with phase := some .failed }.setCondition
    (.new Condition.failed true "RebalanceFailed" text) now

def adopt? (s : JobStatus) (states : List RebalanceState) (now : Instant) : Option JobStatus :=
  if states.isEmpty then none
  else some { s.markProcessing now with rebalanceStates := states }

/-- Follows the runs that the broker lists. When there are none the job is complete. -/
def follow (s : JobStatus) (states : List RebalanceState) (now : Instant) : JobStatus × Bool :=
  if states.isEmpty then
    ({ s with
      phase := some .completed
      rebalanceStates := []
      completedAt := some (Rfc3339.format now) }.setCondition
        (.new Condition.completed true "RebalanceCompleted" "") now, true)
  else ({ s with phase := some .processing, rebalanceStates := states }, false)

end JobStatus

namespace Job

def rival? (j : Job) (jobs : List Job) : Option Job :=
  jobs.find? fun other =>
    other.name != j.name && other.spec.instanceName == j.spec.instanceName &&
      other.phase? == some .processing

def precheck (j : Job) (cluster : Option Cluster) (jobs : List Job) : Except Failure Precheck :=
  if j.phase?.any RebalancePhase.isTerminal then .ok .terminal
  else match cluster with
    | none => .error (.noTarget j.spec.instanceName)
    | some c =>
      if !c.capability.supportsEvacuation then
        .error (.cannotRebalance j.spec.instanceName c.capability.edition.word)
      else if j.phase? = some .processing then .ok .poll
      else match j.rival? jobs with
        | some other => .error (.concurrentJob j.spec.instanceName other.name)
        | none =>
          if c.status.any (·.conditions.holds Condition.running) then .ok .start
          else .ok .waitForCluster

/-- The status of a job that a failure ends; other failures leave the job as it is. -/
def settled? (j : Job) (e : Failure) (now : Instant) : Option JobStatus :=
  if e.classify = .precondition then some (j.currentStatus.markFailed e.message now) else none

def stopAttempts (j : Job) : Nat :=
  ((j.metadata.annotation? stopAttemptsKey).bind fun text =>
    Text.natUpTo? (UInt32.size - 1) text.toList).getD 0

/-- The number of the next attempt that fails, counted in 32 bits. -/
def nextAttempt (j : Job) : Nat :=
  (UInt32.ofNat j.stopAttempts + 1).toNat

def stopDeferral? (j : Job) (now : Instant) : Option Span := do
  let text ← j.metadata.annotation? stopRetryAtKey
  (← Rfc3339.parse? text).remaining? now

def order (j : Job) (nodes : List String) : Except Failure RebalanceOrder :=
  (RebalanceOrder.ofStrategy j.spec.strategy nodes).mapError .threshold

end Job

namespace Cluster

def statusNodes (c : Cluster) : List ClusterNode :=
  (c.status.map (·.nodes)).getD []

/-- The node that a job's calls are about: the one preferred, or else the first that runs. -/
def coordinator (c : Cluster) (preferred : Option String) : Except Failure (String × Endpoint) :=
  match preferred <|> (c.statusNodes.find? ClusterNode.isRunning).map (·.name) with
  | none => .error (.noCoordinator c.name)
  | some node =>
    match podOfNode? node with
    | none => .error (.noCoordinator c.name)
    | some pod =>
      match c.ns? with
      | none => .error (.object .noNamespace)
      | some ns => .ok (node, ⟨ns, pod, c.hostOf ns pod⟩)

end Cluster

end BrokerFleet
