import BrokerFleet.Decimal.Literal
import BrokerFleet.Json.Printer
import BrokerFleet.Management.Credentials
import BrokerFleet.Management.Failure
import BrokerFleet.Rebalance.Job

/-!
Requests to the management API: what can be asked of a broker, and the path and body that ask for it.
-/

namespace BrokerFleet

open Json Decimal

structure EvacuationOrder where
  connEvictRate : Int32
  sessEvictRate : Int32
  migrateTo : List String
  waitTakeover : Option Int32
  waitHealthCheck : Option Int32
  deriving DecidableEq, Repr, Inhabited

namespace EvacuationOrder

def ofStrategy (s : EvacuationStrategy) (migrateTo : List String) : EvacuationOrder :=
  ⟨s.connEvictRate, s.sessEvictRate, migrateTo, s.waitTakeover, s.waitHealthCheck⟩

instance : ToJson EvacuationOrder where
  toJson o := record [
    ("conn_evict_rate", some (toJson o.connEvictRate)),
    ("sess_evict_rate", some (toJson o.sessEvictRate)),
    ("migrate_to", some (strings o.migrateTo)),
    ("wait_takeover", o.waitTakeover.map toJson),
    ("wait_health_check", o.waitHealthCheck.map toJson)]

end EvacuationOrder

structure RebalanceOrder where
  connEvictRate : Int32
  sessEvictRate : Int32
  waitTakeover : Option Int32
  waitHealthCheck : Option Int32
  absConnThreshold : Option Int32
  relConnThreshold : Option Reading
  absSessThreshold : Option Int32
  relSessThreshold : Option Reading
  nodes : List String
  deriving DecidableEq, Repr, Inhabited

namespace RebalanceOrder

def threshold (text : Option String) : Except LiteralError (Option Reading) :=
  match text with
  | none => .ok none
  | some s => (readLiteral s).map some

/-- The order that a strategy makes; its relative thresholds have to be decimal literals. -/
def ofStrategy (s : RebalanceStrategy) (nodes : List String) : Except LiteralError RebalanceOrder := do
  let relConnThreshold ← threshold s.relConnThreshold
  let relSessThreshold ← threshold s.relSessThreshold
  return {
    connEvictRate := s.connEvictRate
    sessEvictRate := s.sessEvictRate
    waitTakeover := s.waitTakeover
    waitHealthCheck := s.waitHealthCheck
    absConnThreshold := s.absConnThreshold
    relConnThreshold
    absSessThreshold := s.absSessThreshold
    relSessThreshold
    nodes }

def number : Reading → Json
  | .finite x => .real x
  | .infinite _ | .notANumber => .null

instance : ToJson RebalanceOrder where
  toJson o := record [
    ("conn_evict_rate", some (toJson o.connEvictRate)),
    ("sess_evict_rate", some (toJson o.sessEvictRate)),
    ("wait_takeover", o.waitTakeover.map toJson),
    ("wait_health_check", o.waitHealthCheck.map toJson),
    ("abs_conn_threshold", o.absConnThreshold.map toJson),
    ("rel_conn_threshold", o.relConnThreshold.map number),
    ("abs_sess_threshold", o.absSessThreshold.map toJson),
    ("rel_sess_threshold", o.relSessThreshold.map number),
    ("nodes", some (strings o.nodes))]

end RebalanceOrder

inductive ManagementRequest where
  | nodes
  | listeners
  | loadStatus
  | availability
  | startEvacuation (node : String) (order : EvacuationOrder)
  | startRebalance (node : String) (order : RebalanceOrder)
  | stopRebalance (node : String)
  deriving DecidableEq, Repr, Inhabited

namespace ManagementRequest

def root : String := "/api/v5/"

def loadRoot : String := root ++ "load_rebalance/"

def path : ManagementRequest → String
  | .nodes => root ++ "nodes"
  | .listeners => root ++ "listeners"
  | .loadStatus => loadRoot ++ "global_status"
  | .availability => loadRoot ++ "availability_check"
  | .startEvacuation node _ => loadRoot ++ node ++ "/evacuation/start"
  | .startRebalance node _ => loadRoot ++ node ++ "/start"
  | .stopRebalance node => loadRoot ++ node ++ "/stop"

def method : ManagementRequest → String
  | .nodes | .listeners | .loadStatus | .availability => "GET"
  | .startEvacuation .. | .startRebalance .. | .stopRebalance _ => "POST"

def body : ManagementRequest → String
  | .nodes | .listeners | .loadStatus | .availability => ""
  | .startEvacuation _ order => (toJson order).compact
  | .startRebalance _ order => (toJson order).compact
  | .stopRebalance _ => (Json.object []).compact

end ManagementRequest

structure Endpoint where
  ns : String
  pod : String
  host : String
  deriving DecidableEq, Repr, Inhabited

instance : ToJson Endpoint where
  toJson e := .object [("namespace", toJson e.ns), ("pod", toJson e.pod), ("host", toJson e.host)]

end BrokerFleet
