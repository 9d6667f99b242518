import BrokerFleet.Rebalance.Job

/-!
What the management API reports, read into the types of this library: the nodes of a cluster, and
the evacuations and rebalances that are going on.
-/

namespace BrokerFleet

open Json

def ClusterNode.ofReport? (value : Json) : Option ClusterNode := do
  let f ← fields? ["node", "node_status", "version", "otp_release", "role", "connections"] value
  some {
    name := ← f.required? "node"
    status := ← f.required? "node_status"
    version := ← f.withDefault? "version" ""
    runtimeRelease := ← f.withDefault? "otp_release" ""
    role := ← f.optional? "role"
    connections := ← f.optional? "connections" }

def EvacuationStats.ofReport? (value : Json) : Option EvacuationStats := do
  let f ← fields? ["initial_sessions", "initial_connected", "current_sessions", "current_connected"]
    value
  some {
    initialSessions := ← f.withDefault? "initial_sessions" 0
    initialConnected := ← f.withDefault? "initial_connected" 0
    currentSessions := ← f.withDefault? "current_sessions" 0
    currentConnected := ← f.withDefault? "current_connected" 0 }

def Evacuation.ofReport? (value : Json) : Option Evacuation := do
  let f ← fields? ["node", "state", "session_goal", "connection_goal", "session_eviction_rate",
    "connection_eviction_rate", "session_recipients", "stats"] value
  some {
    node := ← f.required? "node"
    state := ← f.required? "state"
    sessionGoal := ← f.withDefault? "session_goal" 0
    connectionGoal := ← f.withDefault? "connection_goal" 0
    sessionEvictionRate := ← f.withDefault? "session_eviction_rate" 0
    connectionEvictionRate := ← f.withDefault? "connection_eviction_rate" 0
    sessionRecipients := ← f.withDefault? "session_recipients" []
    stats := ← match f "stats" with
      | some stats => EvacuationStats.ofReport? stats
      | none => some ⟨0, 0, 0, 0⟩ }

def RebalanceState.ofReport? (value : Json) : Option RebalanceState := do
  let f ← fields? ["state", "coordinator_node", "donors", "recipients", "connection_eviction_rate",
    "session_eviction_rate"] value
  some {
    state := ← f.required? "state"
    coordinatorNode := ← f.required? "coordinator_node"
    donors := ← f.withDefault? "donors" []
    recipients := ← f.withDefault? "recipients" []
    connectionEvictionRate := ← f.withDefault? "connection_eviction_rate" 0
    sessionEvictionRate := ← f.withDefault? "session_eviction_rate" 0 }

structure LoadReport where
  evacuations : List Evacuation
  rebalances : List RebalanceState
  deriving DecidableEq, Repr, Inhabited

namespace LoadReport

def listed? {α : Type} (f : Fields) (name : String) (read? : Json → Option α) : Option (List α) :=
  match f name with
  | some value => list? read? value
  | none => some []

def ofReport? (value : Json) : Option LoadReport := do
  let f ← fields? ["evacuations", "rebalances"] value
  some ⟨← listed? f "evacuations" Evacuation.ofReport?, ← listed? f "rebalances" RebalanceState.ofReport?⟩

end LoadReport

end BrokerFleet
