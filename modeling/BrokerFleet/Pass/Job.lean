import BrokerFleet.Pass.State
import BrokerFleet.Rebalance.Finalizer
import BrokerFleet.Rebalance.Progress

/-!
A pass over a rebalance job. A job that is there to stay is started, followed and settled; one that is being
deleted is stopped, again and again if need be but not for ever, and then released.
-/

namespace BrokerFleet

open Kubernetes

structure JobPace extends Pace where
  stopLimit : Nat
  deriving DecidableEq, Repr, Inhabited

namespace Job

def placed (j : Job) : Except ObjectFailure String :=
  match j.ns? with
  | some ns => .ok ns
  | none => .error .noNamespace

def writeStatus (j : Job) (status : JobStatus) : Pass Unit := do
  if j.status == some status then return
  let ns ← Pass.object j.placed
  Pass.write ns (.jobStatus j.name status)

def decided {α : Type} (result : Except Failure α) : Pass α :=
  Attempt.ofExcept id result

def begin (j : Job) (pace : JobPace) (c : Cluster) (client : ManagementClient) (now : Instant) :
    Pass Action := do
  let (node, endpoint) ← decided (c.coordinator none)
  let report ← Pass.management (client.loadReport endpoint)
  let soon := Requeue.action pace.steady (.retryAfter pace.retry)
  match j.currentStatus.adopt? report.rebalances now with
  | some status =>
    j.writeStatus status
    return soon
  | none =>
    let order ← decided (j.order (c.statusNodes.map (·.name)))
    Pass.management (client.order endpoint (.startRebalance node order))
    j.writeStatus (j.currentStatus.markProcessing now)
    Attempt.tell .normal "RebalanceStarted" ("Started rebalance on cluster " ++ j.spec.instanceName)
    return soon

def poll (j : Job) (pace : JobPace) (c : Cluster) (client : ManagementClient) (now : Instant) :
    Pass Action := do
  let (_, endpoint) ← decided (c.coordinator none)
  let report ← Pass.management (client.loadReport endpoint)
  let (status, completed) := j.currentStatus.follow report.rebalances now
  j.writeStatus status
  if completed then
    Attempt.tell .normal "RebalanceCompleted"
      ("Rebalance of cluster " ++ j.spec.instanceName ++ " completed")
    return .await
  return Requeue.action pace.steady .steady

def drive (j : Job) (pace : JobPace) : Pass Action := do
  let ns ← Pass.object j.placed
  let cluster ← Pass.optional (← Attempt.call (.getCluster ns j.spec.instanceName))
  let jobs ← Pass.api (← Attempt.call (.listJobs ns))
  match ← decided (j.precheck cluster jobs) with
  | .terminal => return .await
  | .waitForCluster => return Requeue.action pace.steady .steady
  | .start => onCluster cluster j.begin
  | .poll => onCluster cluster j.poll
where
  onCluster (cluster : Option Cluster)
      (next : JobPace → Cluster → ManagementClient → Instant → Pass Action) : Pass Action := do
    match cluster with
    | none => Attempt.fail (.noTarget j.spec.instanceName)
    | some c =>
      let client ← Pass.access c.signIn
      next pace c client (← Attempt.now)

def apply (j : Job) (pace : JobPace) : Pass Action := do
  match ← (j.drive pace).outcome with
  | .ok action => return action
  | .error e =>
    match j.settled? e (← Attempt.now) with
    | none => Attempt.fail e
    | some status =>
      j.writeStatus status
      Attempt.tell .warning "RebalanceFailed" e.message
      return .await

def recordedCoordinator? (j : Job) : Option String :=
  (j.currentStatus.rebalanceStates.head?).map (·.coordinatorNode)

def stop (j : Job) (c : Cluster) : Pass Unit := do
  let client ← Pass.access c.signIn
  let (node, endpoint) ← decided (c.coordinator j.recordedCoordinator?)
  Pass.management (client.order endpoint (.stopRebalance node))

/-- The pass breaks off: no time of the calendar is left for the next attempt. -/
def calendarOver : Failure :=
  .object (.internal "`DateTime + TimeDelta` overflowed")

def stopFailed (j : Job) (pace : JobPace) (ns : String) (now : Instant) (e : Failure) :
    Pass Action := do
  let attempts := j.nextAttempt
  if pace.stopLimit ≤ attempts then
    Attempt.tell .warning "RebalanceStopAbandoned"
      ("Could not stop rebalance after " ++ toString attempts ++ " attempts: " ++ e.message)
    return .await
  let retryIn := backoff pace.retry pace.steady attempts
  match now.after? retryIn with
  | none => Attempt.fail calendarOver
  | some retryAt =>
    Pass.write ns (.deferStop j.name attempts (Rfc3339.format retryAt))
    Attempt.fail (.stopDeferred attempts retryIn)

def cleanUp (j : Job) (pace : JobPace) : Pass Action := do
  if j.phase? ≠ some .processing then return .await
  let now ← Attempt.now
  match j.stopDeferral? now with
  | some retryIn => Attempt.fail (.stopDeferred j.stopAttempts retryIn)
  | none =>
    let ns ← Pass.object j.placed
    match ← Pass.optional (← Attempt.call (.getCluster ns j.spec.instanceName)) with
    | none => return .await
    | some c =>
      match ← (j.stop c).outcome with
      | .ok () => return .await
      | .error e => j.stopFailed pace ns now e

def editFinalizers (j : Job) (ns : String) (edits : List Json.PatchOp) (failed : ApiError → Failure) :
    Pass Unit := do
  match j.metadata.name with
  | none => Attempt.fail .unnamedObject
  | some name => Attempt.ofExcept failed (← Attempt.call (.write ns (.editFinalizers name edits)))

def pass (j : Job) (pace : JobPace) : Pass Action := do
  let ns ← Pass.object j.placed
  match j.stage with
  | .addFinalizer =>
    j.editFinalizers ns j.finalizerAdded .addingFinalizer
    return .await
  | .apply => (j.apply pace).mapFailure .applying
  | .cleanUp index =>
    if j.metadata.name.isNone then Attempt.fail .unnamedObject
    let action ← (j.cleanUp pace).mapFailure .cleaningUp
    j.editFinalizers ns (finalizerRemoved index) .removingFinalizer
    return action
  | .released => return .await

end Job

end BrokerFleet
