import BrokerFleet.Generation.Basic

/-!
The life of a cluster: from what a pass observes to its next state and conditions. A cluster first
gets the objects that its generations need; then it runs. While two generations are live and the edition
allows it, clients move from the oldest to the one that was stamped from the desired template.
-/

namespace BrokerFleet

/-- What a pass sees of a cluster. -/
structure Observation where
  capability : Capability
  initReady : Bool
  desired : Int32
  ready : Int32
  liveGenerations : Nat
  serving : Option GenerationStatus
  update : Option GenerationStatus
  origin : Option String
  deriving DecidableEq, Repr, Inhabited

namespace Observation

def pending (capability : Capability) (desired : Int32) : Observation where
  capability
  initReady := false
  desired
  ready := 0
  liveGenerations := 0
  serving := none
  update := none
  origin := none

instance : ToJson Observation where
  toJson o := .object [
    ("edition", toJson o.capability.edition),
    ("supports_evacuation", toJson o.capability.supportsEvacuation),
    ("supports_blue_green", toJson o.capability.supportsBlueGreen),
    ("init_ready", toJson o.initReady), ("desired", toJson o.desired), ("ready", toJson o.ready),
    ("live", toJson o.liveGenerations), ("serving", toJson o.serving), ("update", toJson o.update),
    ("origin", toJson o.origin)]

def isRunning (o : Observation) : Bool :=
  if o.liveGenerations ≤ 1 then o.ready == o.desired
  else o.serving.isSome && decide (o.desired ≤ o.ready)

def updateServes (o : Observation) : Bool :=
  match o.update, o.serving with
  | some update, some serving => update.name == serving.name
  | _, _ => false

end Observation

def Cluster.observe (c : Cluster) (initReady : Bool) (nodes : List ClusterNode)
    (generations : List Generation) (update : Option String) : Observation where
  capability := c.capability
  initReady
  desired := c.spec.replicas
  ready := clampedCount (nodes.countP ClusterNode.isRunning)
  liveGenerations := (Generation.live generations).length
  serving := (Generation.serving? generations c.spec.replicas).map Generation.status
  update := (update.bind fun name => Generation.find? name generations).map Generation.status
  origin := (update.bind (Generation.origin? generations)).map (·.name)

inductive Outcome where
  | continue
  /-- The pass ends here; another one comes soon. -/
  | halt
  /-- The pass ends here; only a change of the cluster helps. -/
  | fatal (text : String)
  deriving DecidableEq, Repr, Inhabited

instance : ToJson Outcome where
  toJson
    | .continue => .string "Continue"
    | .halt => .string "Halt"
    | .fatal text => .object [("Fatal", .string text)]

namespace ClusterState

def next (state : ClusterState) (o : Observation) : ClusterState :=
  if state = .empty then .initResourceReady
  else if !o.initReady then .initResourceReady
  else if 1 < o.liveGenerations ∧ o.capability.supportsBlueGreen then .blueGreenUpdating
  else .running

end ClusterState

namespace ClusterStatus

def setCondition (s : ClusterStatus) (c : Condition) (now : Instant) : ClusterStatus :=
  { s with conditions := s.conditions.set c now }

def awaitResources (s : ClusterStatus) (now : Instant) : ClusterStatus :=
  let reason := if s.currentState = .empty then "Initializing" else "ResourcesPending"
  { s with currentState := .initResourceReady }.setCondition
    (.new Condition.initResourceReady false reason "waiting for bootstrap resources") now

/-- Records what was observed. A serving generation is kept until another one serves. -/
def record (s : ClusterStatus) (state : ClusterState) (o : Observation) : ClusterStatus :=
  { s with
    currentState := state
    replicas := o.desired
    readyReplicas := o.ready
    currentGeneration := o.serving <|> s.currentGeneration
    updateGeneration := o.update }

def runningCondition (o : Observation) : Condition :=
  if o.isRunning then .new Condition.running true "ClusterReady" ""
  else .new Condition.running false "ReplicasNotReady"
    (toString o.ready.toInt ++ " of " ++ toString o.desired.toInt ++ " replicas running")

def finishUpdate (s : ClusterStatus) (now : Instant) : ClusterStatus :=
  if s.blueGreenUpdate.isSome || s.conditions.holds Condition.blueGreenUpdating then
    { s with blueGreenUpdate := none }.setCondition
      (.new Condition.blueGreenUpdating false "Completed" "") now
  else s

/-- Which update is going on. One begins when the update generation serves, and begins anew when another
template comes in between or another generation is the oldest. -/
def chooseUpdate (s : ClusterStatus) (o : Observation) (now : Instant) : Option BlueGreenUpdate :=
  match o.updateServes, o.update, o.origin with
  | true, some update, some origin =>
    if s.blueGreenUpdate.any fun u =>
        u.originGeneration == origin && u.currentGeneration == update.name then
      s.blueGreenUpdate
    else some ⟨origin, update.name, Rfc3339.format now, []⟩
  | _, _, _ => s.blueGreenUpdate

def updateCondition : Option BlueGreenUpdate → Condition
  | some u => .new Condition.blueGreenUpdating true "EvacuatingOrigin"
    ("moving clients from " ++ u.originGeneration ++ " to " ++ u.currentGeneration)
  | none => .new Condition.blueGreenUpdating false "UpdateGenerationNotReady"
    "waiting for the update generation to become ready"

def continueUpdate (s : ClusterStatus) (o : Observation) (now : Instant) : ClusterStatus :=
  let update := s.chooseUpdate o now
  { s with blueGreenUpdate := update }.setCondition (updateCondition update) now

def unsupportedText (o : Observation) : String :=
  toString o.liveGenerations ++ " generations are live but the " ++ o.capability.edition.word ++
    " edition cannot evacuate nodes"

def refuseUpdate (s : ClusterStatus) (o : Observation) (now : Instant) : ClusterStatus :=
  { s with blueGreenUpdate := none }.setCondition
    (.new Condition.blueGreenUpdating false "EvacuationUnsupported" (unsupportedText o)) now

/-- The status after a pass that made an observation, and how the pass goes on. -/
def advance (s : ClusterStatus) (o : Observation) (now : Instant) : ClusterStatus × Outcome :=
  let state := s.currentState.next o
  if state = .initResourceReady then (s.awaitResources now, .halt)
  else
    let ready := s.setCondition (.new Condition.initResourceReady true "ResourcesReady" "") now
    let seen := (ready.record state o).setCondition (runningCondition o) now
    if o.liveGenerations ≤ 1 then (seen.finishUpdate now, .continue)
    else if o.capability.supportsBlueGreen then (seen.continueUpdate o now, .continue)
    else (seen.refuseUpdate o now, .fatal (unsupportedText o))

end ClusterStatus

end BrokerFleet
