import BrokerFleet.Cluster.PodTemplate

/-!
Generations: the StatefulSets of a cluster, each stamped from one template, with their pods. While
clients move from one generation to another there are several.
-/

namespace BrokerFleet

open Kubernetes

structure Replica where
  name : String
  ordinal : Option Int32
  hash : Option String
  ready : Bool
  serving : Option Bool
  deriving DecidableEq, Repr, Inhabited

namespace Replica

def ordinalOf? (pod : String) : Option Int32 := do
  let (_, digits) ← Text.splitLast? '-' pod.toList
  let n ← Text.int? digits
  if Int32.minValue.toInt ≤ n ∧ n ≤ Int32.maxValue.toInt then some (.ofInt n) else none

def ofPod (pod : Pod) : Replica where
  name := pod.name
  ordinal := ordinalOf? pod.name
  hash := pod.hash
  ready := (pod.condition? "ContainersReady").getD false
  serving := pod.condition? servingGate

def le (a b : Replica) : Bool :=
  match a.ordinal, b.ordinal with
  | none, _ => true
  | some _, none => false
  | some m, some n => m ≤ n

instance : ToJson Replica where
  toJson r := .object [
    ("name", toJson r.name), ("ordinal", toJson r.ordinal), ("hash", toJson r.hash),
    ("ready", toJson r.ready), ("serving", toJson r.serving)]

end Replica

structure Generation where
  name : String
  hash : String
  replicas : Int32
  created : Option Instant
  pods : List Replica
  deriving DecidableEq, Repr, Inhabited

/-- A count as a 32-bit number, the greatest one if it is beyond. -/
def clampedCount (n : Nat) : Int32 :=
  if n ≤ 2147483647 then .ofNat n else .maxValue

namespace Generation

def isLive (g : Generation) : Bool :=
  decide (0 < g.replicas)

def readyReplicas (g : Generation) : Int32 :=
  clampedCount (g.pods.countP (·.ready))

def isServing (desired : Int32) (g : Generation) : Bool :=
  g.isLive && g.replicas == desired && g.readyReplicas == desired

/-- The replica of the greatest ordinal; a generation shrinks from there. -/
def lastReplica? (g : Generation) : Option String :=
  if g.isLive then some (g.name ++ "-" ++ toString (g.replicas - 1).toInt) else none

def status (g : Generation) : GenerationStatus where
  name := g.name
  hash := g.hash
  replicas := g.replicas
  readyReplicas := g.readyReplicas

instance : ToJson Generation where
  toJson g := .object [
    ("name", toJson g.name), ("hash", toJson g.hash), ("replicas", toJson g.replicas),
    ("ready", toJson g.readyReplicas), ("live", toJson g.isLive),
    ("last_replica", toJson g.lastReplica?), ("pods", toJson g.pods)]

def owns (set : String) (pod : Pod) : Bool :=
  pod.owners.any fun o => o.kind == "StatefulSet" && o.name == set

def ofSet? (pods : List Pod) (set : StatefulSet) : Option Generation := do
  let name ← set.name
  let hash ← set.hash
  some {
    name
    hash
    replicas := set.replicas.getD 1
    created := set.created
    pods := ((pods.filter (owns name)).map Replica.ofPod).mergeSort Replica.le }

/-- The order of generations: the larger first, of one size the younger first. -/
def before (a b : Generation) : Bool :=
  if a.replicas = b.replicas then instantLe b.created a.created else decide (b.replicas < a.replicas)

def collect (sets : List StatefulSet) (pods : List Pod) : List Generation :=
  (sets.filterMap (ofSet? pods)).mergeSort before

def live (generations : List Generation) : List Generation :=
  generations.filter isLive

def serving? (generations : List Generation) (desired : Int32) : Option Generation :=
  generations.find? (isServing desired)

def oldest? : List Generation → Option Generation
  | [] => none
  | g :: rest =>
    match oldest? rest with
    | some h => if instantLe g.created h.created then some g else some h
    | none => some g

def origin? (generations : List Generation) (update : String) : Option Generation :=
  oldest? ((live generations).filter (·.name != update))

def find? (name : String) (generations : List Generation) : Option Generation :=
  generations.find? (·.name == name)

/-- The replica that the management API is asked at: a ready one, of the update generation if it
has any. -/
def chooseReplica? (generations : List Generation) (update : Option String) : Option Replica :=
  let preferred := generations.filter fun g => some g.name == update
  let rest := generations.filter fun g => some g.name != update
  ((preferred ++ rest).flatMap (·.pods)).find? (·.ready)

end Generation

end BrokerFleet
