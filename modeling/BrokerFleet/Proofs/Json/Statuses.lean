import BrokerFleet.Pass.Cluster
import BrokerFleet.Pass.Job
import BrokerFleet.Proofs.Json.Forms
import BrokerFleet.Proofs.Json.Text

/-!
The objects that the operator writes lose nothing on the way to the API and back: statuses of clusters and jobs, what is
asked of a job, and how a cluster is to be updated. So a status that was stored is the one that it is compared with.
-/

namespace BrokerFleet

open Json

/-! ### Parts of a status -/

instance : Lawful ConditionStatus := .of_word ConditionStatus.word (fun _ => rfl) fun s => by cases s <;> rfl

instance : Lawful Condition :=
  .of_record ["type", "status", "reason", "message", "lastUpdateTime", "lastTransitionTime"] (by decide) _
    (fun _ => rfl) (fun _ => rfl) _ (fun _ => rfl) fun faithful c f found => by
      rw [Fields.required?_of faithful (a := c.type) (found "type"),
        Fields.required?_of faithful (a := c.status) (found "status"),
        Fields.withDefault?_blank faithful (found "reason"),
        Fields.withDefault?_blank faithful (found "message"),
        Fields.withDefault?_of faithful (a := c.lastUpdateTime) (found "lastUpdateTime"),
        Fields.withDefault?_of faithful (a := c.lastTransitionTime) (found "lastTransitionTime")]
      rfl

instance : Lawful ClusterState := .of_word ClusterState.word (fun _ => rfl) fun s => by cases s <;> rfl

instance : Lawful GenerationStatus :=
  .of_record ["name", "hash", "replicas", "readyReplicas"] (by decide) _ (fun _ => rfl) (fun _ => rfl) _
    (fun _ => rfl) fun faithful g f found => by
      rw [Fields.required?_of faithful (a := g.name) (found "name"),
        Fields.required?_of faithful (a := g.hash) (found "hash"),
        Fields.required?_of faithful (a := g.replicas) (found "replicas"),
        Fields.required?_of faithful (a := g.readyReplicas) (found "readyReplicas")]
      rfl

instance : Lawful ClusterNode :=
  .of_record ["name", "status", "version", "runtimeRelease", "role", "connections"] (by decide) _ (fun _ => rfl)
    (fun _ => rfl) _ (fun _ => rfl) fun faithful n f found => by
      rw [Fields.required?_of faithful (a := n.name) (found "name"),
        Fields.required?_of faithful (a := n.status) (found "status"),
        Fields.withDefault?_blank faithful (found "version"),
        Fields.withDefault?_blank faithful (found "runtimeRelease"),
        Fields.optional?_of faithful (a := n.role) (found "role"),
        Fields.optional?_of faithful (a := n.connections) (found "connections")]
      rfl

instance : Lawful EvacuationStats :=
  .of_record ["initialSessions", "initialConnected", "currentSessions", "currentConnected"] (by decide) _
    (fun _ => rfl) (fun _ => rfl) _ (fun _ => rfl) fun faithful s f found => by
      rw [Fields.required?_of faithful (a := s.initialSessions) (found "initialSessions"),
        Fields.required?_of faithful (a := s.initialConnected) (found "initialConnected"),
        Fields.required?_of faithful (a := s.currentSessions) (found "currentSessions"),
        Fields.required?_of faithful (a := s.currentConnected) (found "currentConnected")]
      rfl

instance : Lawful Evacuation :=
  .of_record ["node", "stats", "state", "sessionGoal", "connectionGoal", "sessionEvictionRate",
    "connectionEvictionRate", "sessionRecipients"] (by decide) _ (fun _ => rfl) (fun _ => rfl) _
    (fun _ => rfl) fun faithful e f found => by
      rw [Fields.required?_of faithful (a := e.node) (found "node"),
        Fields.required?_of faithful (a := e.stats) (found "stats"),
        Fields.required?_of faithful (a := e.state) (found "state"),
        Fields.withDefault?_of faithful (a := e.sessionGoal) (found "sessionGoal"),
        Fields.withDefault?_of faithful (a := e.connectionGoal) (found "connectionGoal"),
        Fields.withDefault?_of faithful (a := e.sessionEvictionRate) (found "sessionEvictionRate"),
        Fields.withDefault?_of faithful (a := e.connectionEvictionRate) (found "connectionEvictionRate"),
        Fields.withDefault?_empty faithful (l := e.sessionRecipients) (found "sessionRecipients")]
      rfl

instance : Lawful BlueGreenUpdate :=
  .of_record ["originGeneration", "currentGeneration", "startedAt", "evacuations"] (by decide) _ (fun _ => rfl)
    (fun _ => rfl) _ (fun _ => rfl) fun faithful u f found => by
      rw [Fields.required?_of faithful (a := u.originGeneration) (found "originGeneration"),
        Fields.required?_of faithful (a := u.currentGeneration) (found "currentGeneration"),
        Fields.required?_of faithful (a := u.startedAt) (found "startedAt"),
        Fields.withDefault?_empty faithful (l := u.evacuations) (found "evacuations")]
      rfl

/-! ### Statuses and specifications -/

instance : Lawful ClusterStatus :=
  .of_record ["currentState", "conditions", "replicas", "readyReplicas", "nodes", "currentGeneration",
    "updateGeneration", "blueGreenUpdateStatus", "observedGeneration"] (by decide) _ (fun _ => rfl) (fun _ => rfl) _
    (fun _ => rfl) fun faithful s f found => by
      rw [Fields.withDefault?_of faithful (a := s.currentState) (found "currentState"),
        Fields.withDefault?_empty faithful (l := s.conditions) (found "conditions"),
        Fields.withDefault?_of faithful (a := s.replicas) (found "replicas"),
        Fields.withDefault?_of faithful (a := s.readyReplicas) (found "readyReplicas"),
        Fields.withDefault?_empty faithful (l := s.nodes) (found "nodes"),
        Fields.optional?_of faithful (a := s.currentGeneration) (found "currentGeneration"),
        Fields.optional?_of faithful (a := s.updateGeneration) (found "updateGeneration"),
        Fields.optional?_of faithful (a := s.blueGreenUpdate) (found "blueGreenUpdateStatus"),
        Fields.optional?_of faithful (a := s.observedGeneration) (found "observedGeneration")]
      rfl

instance : Lawful RebalancePhase := .of_word RebalancePhase.word (fun _ => rfl) fun s => by cases s <;> rfl

instance : Lawful RebalanceState :=
  .of_record ["state", "coordinatorNode", "donors", "recipients", "connectionEvictionRate", "sessionEvictionRate"]
    (by decide) _ (fun _ => rfl) (fun _ => rfl) _ (fun _ => rfl) fun faithful s f found => by
      rw [Fields.required?_of faithful (a := s.state) (found "state"),
        Fields.required?_of faithful (a := s.coordinatorNode) (found "coordinatorNode"),
        Fields.withDefault?_empty faithful (l := s.donors) (found "donors"),
        Fields.withDefault?_empty faithful (l := s.recipients) (found "recipients"),
        Fields.withDefault?_of faithful (a := s.connectionEvictionRate) (found "connectionEvictionRate"),
        Fields.withDefault?_of faithful (a := s.sessionEvictionRate) (found "sessionEvictionRate")]
      rfl

instance : Lawful JobStatus :=
  .of_record ["phase", "conditions", "rebalanceStates", "startedAt", "completedAt"] (by decide) _ (fun _ => rfl)
    (fun _ => rfl) _ (fun _ => rfl) fun faithful s f found => by
      rw [Fields.optional?_of faithful (a := s.phase) (found "phase"),
        Fields.withDefault?_empty faithful (l := s.conditions) (found "conditions"),
        Fields.withDefault?_empty faithful (l := s.rebalanceStates) (found "rebalanceStates"),
        Fields.optional?_of faithful (a := s.startedAt) (found "startedAt"),
        Fields.optional?_of faithful (a := s.completedAt) (found "completedAt")]
      rfl

instance : Lawful RebalanceStrategy :=
  .of_record ["connEvictRate", "sessEvictRate", "waitTakeover", "waitHealthCheck", "absConnThreshold",
    "relConnThreshold", "absSessThreshold", "relSessThreshold"] (by decide) _ (fun _ => rfl) (fun _ => rfl) _
    (fun _ => rfl) fun faithful s f found => by
      rw [Fields.required?_of faithful (a := s.connEvictRate) (found "connEvictRate"),
        Fields.required?_of faithful (a := s.sessEvictRate) (found "sessEvictRate"),
        Fields.optional?_of faithful (a := s.waitTakeover) (found "waitTakeover"),
        Fields.optional?_of faithful (a := s.waitHealthCheck) (found "waitHealthCheck"),
        Fields.optional?_of faithful (a := s.absConnThreshold) (found "absConnThreshold"),
        Fields.optional?_of faithful (a := s.relConnThreshold) (found "relConnThreshold"),
        Fields.optional?_of faithful (a := s.absSessThreshold) (found "absSessThreshold"),
        Fields.optional?_of faithful (a := s.relSessThreshold) (found "relSessThreshold")]
      rfl

instance : Lawful JobSpec :=
  .of_record ["instanceName", "rebalanceStrategy"] (by decide)
    (fun s => [("instanceName", some (.string s.instanceName)), ("rebalanceStrategy", some (toJson s.strategy))])
    (fun _ => rfl) (fun _ => rfl) _ (fun _ => rfl) fun faithful s f found => by
      rw [Fields.required?_of faithful (a := s.instanceName) (found "instanceName"),
        Fields.required?_of faithful (a := s.strategy) (found "rebalanceStrategy")]
      rfl

instance : Lawful EvacuationStrategy :=
  .of_record ["connEvictRate", "sessEvictRate", "waitTakeover", "waitHealthCheck"] (by decide) _ (fun _ => rfl)
    (fun _ => rfl) _ (fun _ => rfl) fun faithful s f found => by
      rw [Fields.withDefault?_of faithful (a := s.connEvictRate) (found "connEvictRate"),
        Fields.withDefault?_of faithful (a := s.sessEvictRate) (found "sessEvictRate"),
        Fields.optional?_of faithful (a := s.waitTakeover) (found "waitTakeover"),
        Fields.optional?_of faithful (a := s.waitHealthCheck) (found "waitHealthCheck")]
      rfl

instance : Lawful UpdateStrategy :=
  .of_record ["initialDelaySeconds", "evacuationStrategy"] (by decide) _ (fun _ => rfl) (fun _ => rfl) _
    (fun _ => rfl) fun faithful s f found => by
      rw [Fields.withDefault?_of faithful (a := s.initialDelaySeconds) (found "initialDelaySeconds"),
        Fields.withDefault?_of faithful (a := s.evacuationStrategy) (found "evacuationStrategy")]
      rfl

/-! ### Their texts -/

section

variable {depth : Nat}

instance : PlainForm depth ConditionStatus := ⟨fun s => .string s.word⟩

instance : PlainForm (depth + 1) Condition where
  plain c := .record ⟨plain_there c.type, plain_there c.status, plain_unlessBlank c.reason,
    plain_unlessBlank c.message, plain_there c.lastUpdateTime, plain_there c.lastTransitionTime⟩

instance : PlainForm depth ClusterState := ⟨fun s => .string s.word⟩

instance : PlainForm (depth + 1) GenerationStatus where
  plain g := .record ⟨plain_there g.name, plain_there g.hash, plain_there g.replicas, plain_there g.readyReplicas⟩

instance : PlainForm (depth + 1) ClusterNode where
  plain n := .record ⟨plain_there n.name, plain_there n.status, plain_unlessBlank n.version,
    plain_unlessBlank n.runtimeRelease, plain_optional n.role, plain_optional n.connections⟩

instance : PlainForm (depth + 1) EvacuationStats where
  plain s := .record ⟨plain_there s.initialSessions, plain_there s.initialConnected, plain_there s.currentSessions,
    plain_there s.currentConnected⟩

instance : PlainForm (depth + 2) Evacuation where
  plain e := .record ⟨plain_there e.node, plain_there e.stats, plain_there e.state, plain_there e.sessionGoal,
    plain_there e.connectionGoal, plain_there e.sessionEvictionRate, plain_there e.connectionEvictionRate,
    plain_unlessEmpty e.sessionRecipients⟩

instance : PlainForm (depth + 4) BlueGreenUpdate where
  plain u := .record ⟨plain_there u.originGeneration, plain_there u.currentGeneration, plain_there u.startedAt,
    plain_unlessEmpty u.evacuations⟩

instance : PlainForm (depth + 5) ClusterStatus where
  plain s := .record ⟨plain_there s.currentState, plain_unlessEmpty s.conditions, plain_there s.replicas,
    plain_there s.readyReplicas, plain_unlessEmpty s.nodes, plain_optional s.currentGeneration,
    plain_optional s.updateGeneration, plain_optional s.blueGreenUpdate, plain_optional s.observedGeneration⟩

instance : PlainForm depth RebalancePhase := ⟨fun p => .string p.word⟩

instance : PlainForm (depth + 2) RebalanceState where
  plain s := .record ⟨plain_there s.state, plain_there s.coordinatorNode, plain_unlessEmpty s.donors,
    plain_unlessEmpty s.recipients, plain_there s.connectionEvictionRate, plain_there s.sessionEvictionRate⟩

instance : PlainForm (depth + 4) JobStatus where
  plain s := .record ⟨plain_optional s.phase, plain_unlessEmpty s.conditions, plain_unlessEmpty s.rebalanceStates,
    plain_optional s.startedAt, plain_optional s.completedAt⟩

instance : PlainForm (depth + 1) RebalanceStrategy where
  plain s := .record ⟨plain_there s.connEvictRate, plain_there s.sessEvictRate, plain_optional s.waitTakeover,
    plain_optional s.waitHealthCheck, plain_optional s.absConnThreshold, plain_optional s.relConnThreshold,
    plain_optional s.absSessThreshold, plain_optional s.relSessThreshold⟩

instance : PlainForm (depth + 2) JobSpec where
  plain s := .record (l := [("instanceName", some (toJson s.instanceName)),
    ("rebalanceStrategy", some (toJson s.strategy))]) ⟨plain_there s.instanceName, plain_there s.strategy⟩

instance : PlainForm (depth + 1) EvacuationStrategy where
  plain s := .record ⟨plain_there s.connEvictRate, plain_there s.sessEvictRate, plain_optional s.waitTakeover,
    plain_optional s.waitHealthCheck⟩

instance : PlainForm (depth + 2) UpdateStrategy where
  plain s := .record ⟨plain_there s.initialDelaySeconds, plain_there s.evacuationStrategy⟩

end

/-! ### What the API gives back -/

def reread? {α : Type} [FromJson α] [ToJson α] (a : α) : Option α :=
  (Json.parse? (toJson a).compact).bind ofJson?

theorem reread?_eq {α : Type} [FromJson α] [ToJson α] [Lawful α] [PlainForm 127 α] (a : α) :
    reread? a = some a := by
  have plain : Plain 127 (toJson a) := PlainForm.plain a
  rw [reread?, Json.parse?, Json.parse_compact plain]
  exact Lawful.reads faithful_sorted a

theorem ofJson?_toJson {α : Type} [FromJson α] [ToJson α] [Lawful α] (a : α) : ofJson? (toJson a) = some a :=
  Lawful.reads faithful_id a

/-- Statuses of clusters and jobs, what is asked of a job, and update strategies are read back as they were, from the
values that they are written as and from the texts of these. A status is written again just if it is another one than the
one that was stored. -/
theorem stored_objects_read_back :
    (∀ s : ClusterStatus, ofJson? (toJson s) = some s ∧ reread? s = some s) ∧
    (∀ s : JobStatus, ofJson? (toJson s) = some s ∧ reread? s = some s) ∧
    (∀ s : JobSpec, ofJson? (toJson s) = some s ∧ reread? s = some s) ∧
    (∀ s : UpdateStrategy, ofJson? (toJson s) = some s ∧ reread? s = some s) ∧
    (∀ (c : Cluster) (stored status : ClusterStatus),
      ({ c with status := reread? stored } : Cluster).writeStatus status =
        if stored = status then pure () else do
          let ns ← Pass.object c.placed
          Pass.write ns (.clusterStatus c.name status)) ∧
    (∀ (j : Job) (stored status : JobStatus),
      ({ j with status := reread? stored } : Job).writeStatus status =
        if stored = status then pure () else do
          let ns ← Pass.object j.placed
          Pass.write ns (.jobStatus j.name status)) := by
  refine ⟨fun s => ⟨ofJson?_toJson s, reread?_eq s⟩, fun s => ⟨ofJson?_toJson s, reread?_eq s⟩,
    fun s => ⟨ofJson?_toJson s, reread?_eq s⟩, fun s => ⟨ofJson?_toJson s, reread?_eq s⟩,
    fun c stored status => ?_, fun j stored status => ?_⟩
  · rw [reread?_eq, Cluster.writeStatus]
    by_cases same : stored = status
    · subst same
      rw [if_pos rfl, if_pos (beq_self_eq_true _)]
    · rw [if_neg same, if_neg fun equal => same (Option.some.inj (eq_of_beq equal))]
      rfl
  · rw [reread?_eq, Job.writeStatus]
    by_cases same : stored = status
    · subst same
      rw [if_pos rfl, if_pos (beq_self_eq_true _)]
    · rw [if_neg same, if_neg fun equal => same (Option.some.inj (eq_of_beq equal))]
      rfl

end BrokerFleet
