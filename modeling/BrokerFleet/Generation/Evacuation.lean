import BrokerFleet.Generation.Basic

/-!
Moving clients off an outgoing generation. It shrinks from its greatest ordinal, one replica at a
time, and only after the node of that replica holds no clients any more.
-/

namespace BrokerFleet

inductive EvacuationPlan where
  | scaleDown (replicas : Int32)
  | start (node : String) (migrateTo : List String)
  | wait
  deriving DecidableEq, Repr, Inhabited

namespace EvacuationPlan

instance : ToJson EvacuationPlan where
  toJson
    | .scaleDown replicas => .object [("scale_down", toJson replicas)]
    | .start node migrateTo => .object [("start", toJson node), ("migrate_to", toJson migrateTo)]
    | .wait => .string "wait"

/-- Decides about the node of the outgoing generation's last replica. Only a record of that node itself
can retire it. -/
def choose (target : String) (replicas : Int32) (records : List Evacuation) (incoming : List String) :
    EvacuationPlan :=
  match records.find? (·.node == target) with
  | some record =>
    if record.isDrained && decide (0 < replicas) then .scaleDown (replicas - 1) else .wait
  | none =>
    if incoming.isEmpty || replicas == 0 then .wait else .start target incoming

end EvacuationPlan

namespace BlueGreenUpdate

/-- What is left of the delay that follows the start of an update. No time that can be read means no
delay. -/
def delayRemaining? (startedAt : String) (delaySeconds : Int32) (now : Instant) : Option Span :=
  (Rfc3339.parse? startedAt).bind fun started =>
    (started.add (.ofSeconds delaySeconds.toInt.toNat)).remaining? now

end BlueGreenUpdate

namespace Cluster

/-- The nodes that clients are moved to: those of ready replicas that the broker reports as running.
There are none if the cluster has no namespace to find its replicas in. -/
def incomingNodes? (c : Cluster) (incoming : Option Generation) (nodes : List ClusterNode) :
    Option (List String) :=
  match incoming with
  | none => some []
  | some g => do
    let targets ← (g.pods.filter (·.ready)).mapM fun pod => c.nodeName? pod.name
    some (targets.filter fun target => nodes.any fun n => n.isRunning && n.name == target)

end Cluster

end BrokerFleet
