import BrokerFleet.Pass.Steps

/-!
A whole pass over a cluster: the steps in order until one fails or halts, and then the status, which also
says how the pass went. A failure of the pass comes before a failure to write the status.
-/

namespace BrokerFleet

inductive Step where
  | initResources
  | generations
  | nodes
  | stateMachine
  | evacuation
  | readinessGates
  | listeners
  deriving DecidableEq, Repr, Inhabited

namespace Step

def all : List Step :=
  [.initResources, .generations, .nodes, .stateMachine, .evacuation, .readinessGates, .listeners]

def word : Step → String
  | .initResources => "InitResources"
  | .generations => "Generations"
  | .nodes => "Nodes"
  | .stateMachine => "StateMachine"
  | .evacuation => "Evacuation"
  | .readinessGates => "ReadinessGates"
  | .listeners => "Listeners"

def run (step : Step) (c : Cluster) (pace : Pace) (p : ClusterPass) : Pass ClusterPass :=
  match step with
  | .initResources => c.bootstrapStep pace p
  | .generations => c.generationStep p
  | .nodes => c.nodeStep pace p
  | .stateMachine => c.stateStep pace p
  | .evacuation => c.evacuationStep pace p
  | .readinessGates => c.gateStep p
  | .listeners => c.listenerStep p

end Step

namespace Cluster

/-- Takes steps until one fails or halts. What is known so far comes back either way. -/
def runSteps (c : Cluster) (pace : Pace) :
    List Step → ClusterPass → Dialogue (ClusterPass × Option (Step × Failure))
  | [], p => pure (p, none)
  | step :: rest, p => do
    match ← (step.run c pace p).run with
    | .error e => return (p, some (step, e))
    | .ok next => if next.halted then return (next, none) else runSteps c pace rest next

def reconciledCondition (failure : Option (Step × Failure)) (requeue : Requeue) : Condition :=
  match failure, requeue with
  | some (step, e), _ =>
    .new Condition.reconciled false e.classify.word (step.word ++ ": " ++ e.message)
  | none, .fatal text => .new Condition.reconciled false "Unrecoverable" text
  | none, _ => .new Condition.reconciled true "ReconcileSucceeded" ""

def writeStatus (c : Cluster) (status : ClusterStatus) : Pass Unit := do
  if c.status == some status then return
  let ns ← Pass.object c.placed
  Pass.write ns (.clusterStatus c.name status)

def passOver (latest : Cluster) (pace : Pace) : Pass Action := do
  let (p, failure) ← ExceptT.lift (latest.runSteps pace Step.all (.start (latest.status.getD .initial)))
  let status := p.status.setCondition (reconciledCondition failure p.requeue) (← Attempt.now)
  let status := { status with observedGeneration := latest.metadata.generation }
  let written ← (latest.writeStatus status).outcome
  match failure, written with
  | some (_, e), _ => Attempt.fail e
  | none, .error e => Attempt.fail e
  | none, .ok () => return p.requeue.action pace.steady

/-- A pass over a cluster. It looks at the cluster as it is stored; one that is being deleted is left
alone. -/
def pass (c : Cluster) (pace : Pace) : Pass Action := do
  let ns ← Pass.object c.placed
  let latest ← Pass.api (← Attempt.call (.getCluster ns c.name))
  if latest.metadata.deleted.isSome then return .await
  latest.passOver pace

end Cluster

end BrokerFleet
