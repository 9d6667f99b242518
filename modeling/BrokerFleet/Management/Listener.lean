import BrokerFleet.Cluster.Children

/-!
Listeners of broker nodes, and the ports under which those that all nodes run are published.
-/

namespace BrokerFleet

open Json

structure Listener where
  id : String
  type : String
  bind : String
  running : Bool
  deriving DecidableEq, Repr, Inhabited

structure NodeListeners where
  node : String
  listeners : List Listener
  deriving DecidableEq, Repr, Inhabited

namespace Listener

instance : FromJson Listener where
  ofJson? value := do
    let f ← fields? ["id", "type", "bind", "running"] value
    some {
      id := ← f.required? "id"
      type := ← f.required? "type"
      bind := ← f.required? "bind"
      running := ← f.withDefault? "running" true }

instance : ToJson Listener where
  toJson l := .object [
    ("id", toJson l.id), ("type", toJson l.type), ("bind", toJson l.bind), ("running", toJson l.running)]

instance : FromJson NodeListeners where
  ofJson? value := do
    let f ← fields? ["node", "listeners"] value
    some ⟨← f.required? "node", ← f.withDefault? "listeners" []⟩

def agrees (a b : Listener) : Bool :=
  a.id == b.id && a.type == b.type && a.bind == b.bind

def runsOn (l : Listener) (node : NodeListeners) : Bool :=
  node.listeners.any fun other => other.running && other.agrees l

def idLe (a b : Listener) : Bool :=
  decide (a.id ≤ b.id)

def dedup : List Listener → List Listener
  | [] => []
  | l :: rest =>
    match dedup rest with
    | [] => [l]
    | m :: others => if l == m then m :: others else l :: m :: others

def common : List NodeListeners → List Listener
  | [] => []
  | first :: rest =>
    dedup (((first.listeners.filter (·.running)).filter fun l => rest.all l.runsOn).mergeSort idLe)

/-- The port of an address: what stands after its last colon, or all of it. -/
def bindPort? (bind : String) : Option Nat :=
  (Text.natUpTo? 65535 (Text.afterLast ':' bind.toList)).filter (· != 0)

def transport (l : Listener) : String :=
  if l.type = "quic" then "UDP" else "TCP"

def portName (l : Listener) : String :=
  String.ofList ((l.id.toList.map Char.toLower).map fun c =>
    if Text.isAsciiAlphanumeric c then c else '-')

def publish (ports : List ListenerPort) (l : Listener) : List ListenerPort :=
  match bindPort? l.bind with
  | none => ports
  | some port =>
    if ports.any fun p => p.port == (port : Int) && p.protocol == l.transport then ports
    else ports ++ [⟨l.portName, l.transport, port⟩]

def ports (listeners : List Listener) : List ListenerPort :=
  listeners.foldl publish []

end Listener

end BrokerFleet
