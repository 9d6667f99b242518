import BrokerFleet.Cluster.Condition

/-!
The status of a broker cluster: its state, conditions, nodes and generations, and the update from
one generation to another while there is one.
-/

namespace BrokerFleet

open Json

inductive ClusterState where
  | empty
  | initResourceReady
  | running
  | blueGreenUpdating
  deriving DecidableEq, Repr, Inhabited

namespace ClusterState

def word : ClusterState → String
  | .empty => "Empty"
  | .initResourceReady => "InitResourceReady"
  | .running => "Running"
  | .blueGreenUpdating => "BlueGreenUpdating"

def all : List ClusterState :=
  [.empty, .initResourceReady, .running, .blueGreenUpdating]

def ofWord? (word : String) : Option ClusterState :=
  all.find? (·.word == word)

instance : FromJson ClusterState := ⟨fun value => (word? value).bind ofWord?⟩
instance : ToJson ClusterState := ⟨fun state => .string state.word⟩

end ClusterState

structure GenerationStatus where
  name : String
  hash : String
  replicas : Int32
  readyReplicas : Int32
  deriving DecidableEq, Repr, Inhabited

namespace GenerationStatus

instance : FromJson GenerationStatus where
  ofJson? value := do
    let f ← fields? ["name", "hash", "replicas", "readyReplicas"] value
    some {
      name := ← f.required? "name"
      hash := ← f.required? "hash"
      replicas := ← f.required? "replicas"
      readyReplicas := ← f.required? "readyReplicas" }

instance : ToJson GenerationStatus where
  toJson g := record [
    ("name", some (.string g.name)),
    ("hash", some (.string g.hash)),
    ("replicas", some (toJson g.replicas)),
    ("readyReplicas", some (toJson g.readyReplicas))]

end GenerationStatus

structure ClusterNode where
  name : String
  status : String
  version : String
  runtimeRelease : String
  role : Option String
  connections : Option Int64
  deriving DecidableEq, Repr, Inhabited

namespace ClusterNode

def isRunning (n : ClusterNode) : Bool :=
  n.status == "running"

instance : FromJson ClusterNode where
  ofJson? value := do
    let f ← fields? ["name", "status", "version", "runtimeRelease", "role", "connections"] value
    some {
      name := ← f.required? "name"
      status := ← f.required? "status"
      version := ← f.withDefault? "version" ""
      runtimeRelease := ← f.withDefault? "runtimeRelease" ""
      role := ← f.optional? "role"
      connections := ← f.optional? "connections" }

instance : ToJson ClusterNode where
  toJson n := record [
    ("name", some (.string n.name)),
    ("status", some (.string n.status)),
    ("version", unlessBlank n.version),
    ("runtimeRelease", unlessBlank n.runtimeRelease),
    ("role", n.role.map .string),
    ("connections", n.connections.map toJson)]

end ClusterNode

structure EvacuationStats where
  initialSessions : Int64
  initialConnected : Int64
  currentSessions : Int64
  currentConnected : Int64
  deriving DecidableEq, Repr, Inhabited

namespace EvacuationStats

instance : FromJson EvacuationStats where
  ofJson? value := do
    let f ← fields? ["initialSessions", "initialConnected", "currentSessions", "currentConnected"] value
    some {
      initialSessions := ← f.required? "initialSessions"
      initialConnected := ← f.required? "initialConnected"
      currentSessions := ← f.required? "currentSessions"
      currentConnected := ← f.required? "currentConnected" }

instance : ToJson EvacuationStats where
  toJson s := record [
    ("initialSessions", some (toJson s.initialSessions)),
    ("initialConnected", some (toJson s.initialConnected)),
    ("currentSessions", some (toJson s.currentSessions)),
    ("currentConnected", some (toJson s.currentConnected))]

end EvacuationStats

structure Evacuation where
  node : String
  stats : EvacuationStats
  state : String
  sessionGoal : Int64
  connectionGoal : Int64
  sessionEvictionRate : Int64
  connectionEvictionRate : Int64
  sessionRecipients : List String
  deriving DecidableEq, Repr, Inhabited

namespace Evacuation

def isDrained (e : Evacuation) : Bool :=
  e.stats.currentConnected == 0 && e.stats.currentSessions == 0 && e.state == "prohibiting"

instance : FromJson Evacuation where
  ofJson? value := do
    let f ← fields? ["node", "stats", "state", "sessionGoal", "connectionGoal", "sessionEvictionRate",
      "connectionEvictionRate", "sessionRecipients"] value
    some {
      node := ← f.required? "node"
      stats := ← f.required? "stats"
      state := ← f.required? "state"
      sessionGoal := ← f.withDefault? "sessionGoal" 0
      connectionGoal := ← f.withDefault? "connectionGoal" 0
      sessionEvictionRate := ← f.withDefault? "sessionEvictionRate" 0
      connectionEvictionRate := ← f.withDefault? "connectionEvictionRate" 0
      sessionRecipients := ← f.withDefault? "sessionRecipients" [] }

instance : ToJson Evacuation where
  toJson e := record [
    ("node", some (.string e.node)),
    ("stats", some (toJson e.stats)),
    ("state", some (.string e.state)),
    ("sessionGoal", some (toJson e.sessionGoal)),
    ("connectionGoal", some (toJson e.connectionGoal)),
    ("sessionEvictionRate", some (toJson e.sessionEvictionRate)),
    ("connectionEvictionRate", some (toJson e.connectionEvictionRate)),
    ("sessionRecipients", unlessEmpty (e.sessionRecipients.map .string))]

end Evacuation

/-- Clients move from the origin generation to the current one. -/
structure BlueGreenUpdate where
  originGeneration : String
  currentGeneration : String
  startedAt : String
  evacuations : List Evacuation
  deriving DecidableEq, Repr, Inhabited

namespace BlueGreenUpdate

instance : FromJson BlueGreenUpdate where
  ofJson? value := do
    let f ← fields? ["originGeneration", "currentGeneration", "startedAt", "evacuations"] value
    some {
      originGeneration := ← f.required? "originGeneration"
      currentGeneration := ← f.required? "currentGeneration"
      startedAt := ← f.required? "startedAt"
      evacuations := ← f.withDefault? "evacuations" [] }

instance : ToJson BlueGreenUpdate where
  toJson u := record [
    ("originGeneration", some (.string u.originGeneration)),
    ("currentGeneration", some (.string u.currentGeneration)),
    ("startedAt", some (.string u.startedAt)),
    ("evacuations", unlessEmpty (u.evacuations.map toJson))]

end BlueGreenUpdate

structure ClusterStatus where
  currentState : ClusterState
  conditions : Conditions
  replicas : Int32
  readyReplicas : Int32
  nodes : List ClusterNode
  currentGeneration : Option GenerationStatus
  updateGeneration : Option GenerationStatus
  blueGreenUpdate : Option BlueGreenUpdate
  observedGeneration : Option Int64
  deriving DecidableEq, Repr

namespace ClusterStatus

def initial : ClusterStatus where
  currentState := .empty
  conditions := []
  replicas := 0
  readyReplicas := 0
  nodes := []
  currentGeneration := none
  updateGeneration := none
  blueGreenUpdate := none
  observedGeneration := none

instance : Inhabited ClusterStatus := ⟨initial⟩

instance : FromJson ClusterStatus where
  ofJson? value := do
    let f ← fields? ["currentState", "conditions", "replicas", "readyReplicas", "nodes",
      "currentGeneration", "updateGeneration", "blueGreenUpdateStatus", "observedGeneration"] value
    some {
      currentState := ← f.withDefault? "currentState" .empty
      conditions := ← f.withDefault? "conditions" []
      replicas := ← f.withDefault? "replicas" 0
      readyReplicas := ← f.withDefault? "readyReplicas" 0
      nodes := ← f.withDefault? "nodes" []
      currentGeneration := ← f.optional? "currentGeneration"
      updateGeneration := ← f.optional? "updateGeneration"
      blueGreenUpdate := ← f.optional? "blueGreenUpdateStatus"
      observedGeneration := ← f.optional? "observedGeneration" }

instance : ToJson ClusterStatus where
  toJson s := record [
    ("currentState", some (toJson s.currentState)),
    ("conditions", unlessEmpty (s.conditions.map toJson)),
    ("replicas", some (toJson s.replicas)),
    ("readyReplicas", some (toJson s.readyReplicas)),
    ("nodes", unlessEmpty (s.nodes.map toJson)),
    ("currentGeneration", s.currentGeneration.map toJson),
    ("updateGeneration", s.updateGeneration.map toJson),
    ("blueGreenUpdateStatus", s.blueGreenUpdate.map toJson),
    ("observedGeneration", s.observedGeneration.map toJson)]

end ClusterStatus

end BrokerFleet
