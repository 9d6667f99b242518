import BrokerFleet.Cluster.Basic

/-!
Rebalance jobs: one run of the broker's rebalancing over a whole cluster, asked for once.
-/

namespace BrokerFleet

open Json Kubernetes

def stopAttemptsKey : String := "apps.broker.dev/stop-attempts"

def stopRetryAtKey : String := "apps.broker.dev/stop-retry-at"

structure RebalanceStrategy where
  connEvictRate : Int32
  sessEvictRate : Int32
  waitTakeover : Option Int32
  waitHealthCheck : Option Int32
  absConnThreshold : Option Int32
  relConnThreshold : Option String
  absSessThreshold : Option Int32
  relSessThreshold : Option String
  deriving DecidableEq, Repr, Inhabited

namespace RebalanceStrategy

instance : FromJson RebalanceStrategy where
  ofJson? value := do
    let f ← fields? ["connEvictRate", "sessEvictRate", "waitTakeover", "waitHealthCheck",
      "absConnThreshold", "relConnThreshold", "absSessThreshold", "relSessThreshold"] value
    some {
      connEvictRate := ← f.required? "connEvictRate"
      sessEvictRate := ← f.required? "sessEvictRate"
      waitTakeover := ← f.optional? "waitTakeover"
      waitHealthCheck := ← f.optional? "waitHealthCheck"
      absConnThreshold := ← f.optional? "absConnThreshold"
      relConnThreshold := ← f.optional? "relConnThreshold"
      absSessThreshold := ← f.optional? "absSessThreshold"
      relSessThreshold := ← f.optional? "relSessThreshold" }

instance : ToJson RebalanceStrategy where
  toJson s := record [
    ("connEvictRate", some (toJson s.connEvictRate)),
    ("sessEvictRate", some (toJson s.sessEvictRate)),
    ("waitTakeover", s.waitTakeover.map toJson),
    ("waitHealthCheck", s.waitHealthCheck.map toJson),
    ("absConnThreshold", s.absConnThreshold.map toJson),
    ("relConnThreshold", s.relConnThreshold.map .string),
    ("absSessThreshold", s.absSessThreshold.map toJson),
    ("relSessThreshold", s.relSessThreshold.map .string)]

end RebalanceStrategy

inductive RebalancePhase where
  | processing
  | completed
  | failed
  deriving DecidableEq, Repr, Inhabited

namespace RebalancePhase

def word : RebalancePhase → String
  | .processing => "Processing"
  | .completed => "Completed"
  | .failed => "Failed"

def all : List RebalancePhase :=
  [.processing, .completed, .failed]

def ofWord? (word : String) : Option RebalancePhase :=
  all.find? (·.word == word)

instance : FromJson RebalancePhase := ⟨fun value => (word? value).bind ofWord?⟩
instance : ToJson RebalancePhase := ⟨fun phase => .string phase.word⟩

def isTerminal (phase : RebalancePhase) : Bool :=
  phase == .completed || phase == .failed

end RebalancePhase

structure RebalanceState where
  state : String
  coordinatorNode : String
  donors : List String
  recipients : List String
  connectionEvictionRate : Int64
  sessionEvictionRate : Int64
  deriving DecidableEq, Repr, Inhabited

namespace RebalanceState

instance : FromJson RebalanceState where
  ofJson? value := do
    let f ← fields? ["state", "coordinatorNode", "donors", "recipients", "connectionEvictionRate",
      "sessionEvictionRate"] value
    some {
      state := ← f.required? "state"
      coordinatorNode := ← f.required? "coordinatorNode"
      donors := ← f.withDefault? "donors" []
      recipients := ← f.withDefault? "recipients" []
      connectionEvictionRate := ← f.withDefault? "connectionEvictionRate" 0
      sessionEvictionRate := ← f.withDefault? "sessionEvictionRate" 0 }

instance : ToJson RebalanceState where
  toJson s := record [
    ("state", some (.string s.state)),
    ("coordinatorNode", some (.string s.coordinatorNode)),
    ("donors", unlessEmpty (s.donors.map .string)),
    ("recipients", unlessEmpty (s.recipients.map .string)),
    ("connectionEvictionRate", some (toJson s.connectionEvictionRate)),
    ("sessionEvictionRate", some (toJson s.sessionEvictionRate))]

end RebalanceState

structure JobStatus where
  phase : Option RebalancePhase
  conditions : Conditions
  rebalanceStates : List RebalanceState
  startedAt : Option String
  completedAt : Option String
  deriving DecidableEq, Repr

namespace JobStatus

def initial : JobStatus := ⟨none, [], [], none, none⟩

instance : Inhabited JobStatus := ⟨initial⟩

instance : FromJson JobStatus where
  ofJson? value := do
    let f ← fields? ["phase", "conditions", "rebalanceStates", "startedAt", "completedAt"] value
    some {
      phase := ← f.optional? "phase"
      conditions := ← f.withDefault? "conditions" []
      rebalanceStates := ← f.withDefault? "rebalanceStates" []
      startedAt := ← f.optional? "startedAt"
      completedAt := ← f.optional? "completedAt" }

instance : ToJson JobStatus where
  toJson s := record [
    ("phase", s.phase.map toJson),
    ("conditions", unlessEmpty (s.conditions.map toJson)),
    ("rebalanceStates", unlessEmpty (s.rebalanceStates.map toJson)),
    ("startedAt", s.startedAt.map .string),
    ("completedAt", s.completedAt.map .string)]

end JobStatus

structure JobSpec where
  instanceName : String
  strategy : RebalanceStrategy
  deriving DecidableEq, Repr, Inhabited

namespace JobSpec

instance : FromJson JobSpec where
  ofJson? value := do
    let f ← fields? ["instanceName", "rebalanceStrategy"] value
    some ⟨← f.required? "instanceName", ← f.required? "rebalanceStrategy"⟩

instance : ToJson JobSpec where
  toJson s := .object [
    ("instanceName", .string s.instanceName), ("rebalanceStrategy", toJson s.strategy)]

end JobSpec

structure Job where
  metadata : Meta
  spec : JobSpec
  status : Option JobStatus
  deriving Inhabited

namespace Job

instance : FromJson Job where
  ofJson? value := do
    let (metadata, spec, status) ← resourceParts? value
    some ⟨metadata, ← ofJson? spec, ← ofJson? status⟩

instance : ToJson Job where
  toJson j := record [
    ("apiVersion", some (.string apiVersion)),
    ("kind", some (.string "Rebalance")),
    ("metadata", some (toJson j.metadata)),
    ("spec", some (toJson j.spec)),
    ("status", j.status.map toJson)]

def name (j : Job) : String := j.metadata.displayName

def ns? (j : Job) : Option String := j.metadata.ns?

def phase? (j : Job) : Option RebalancePhase :=
  j.status.bind (·.phase)

def currentStatus (j : Job) : JobStatus :=
  j.status.getD .initial

end Job

end BrokerFleet
