import BrokerFleet.Definition.Affinity
import BrokerFleet.Definition.Basic
import BrokerFleet.Definition.PodParts
import BrokerFleet.Rebalance.Job

/-!
The definitions that the operator publishes: clusters and rebalancing jobs.
-/

namespace BrokerFleet

namespace Schema

def rate (name : String) (schema : Schema) : Schema :=
  .ruled "self > 0" (name ++ " must be greater than 0") schema

def int32From (value : Int32) : Schema := .withDefault (toJson value) .int32

def count : Schema := .withDefault (toJson (0 : Int64)) .int64

def condition : Schema :=
  .record [
    required "type" .text,
    required "status" (.described ("Tri-state status shared by every condition the operator writes.\n\n" ++
      page "architecture/nodes/#condition") (.word (ConditionStatus.all.map (·.word)))),
    optional "reason" .text,
    optional "message" .text,
    optional "lastUpdateTime" (.withDefault (.string "") .text),
    optional "lastTransitionTime" (.withDefault (.string "") .text)]

end Schema

open Schema

/-! ### Clusters -/

def EvacuationStrategy.schema : Schema :=
  .record [
    optional "connEvictRate" (rate "connEvictRate" (int32From defaultRate)),
    optional "sessEvictRate" (rate "sessEvictRate" (int32From defaultRate)),
    orNull "waitTakeover" .int32,
    orNull "waitHealthCheck" .int32]

def UpdateStrategy.schema : Schema :=
  .record [
    optional "initialDelaySeconds" (.described ("Seconds to wait after the incoming generation is serving " ++
      "before the\nfirst node of the outgoing generation is evacuated.") (int32From defaultDelaySeconds)),
    optional "evacuationStrategy"
      (.withDefault (toJson (default : EvacuationStrategy)) EvacuationStrategy.schema)]

def Edition.schema : Schema :=
  .described ("Broker distribution. Only the enterprise build ships the load_rebalance\nAPI that evacuation " ++
    "and rebalancing are built on.") (.word (all.map word))

def PullPolicy.schema : Schema :=
  .described ("Image pull policy for broker containers.\n- Always: Always pull the image\n- Never: Never " ++
    "pull the image\n- IfNotPresent: Pull the image if not present locally (default)\n\n" ++
    page "containers/images/#image-pull-policy") (.word (all.map word))

def ClusterSpec.schema : Schema :=
  .record [
    optional "edition" (.withDefault (toJson Edition.enterprise) Edition.schema),
    required "image" (.ruled "self != ''" "image must be configured" .text),
    orNull "imagePullPolicy" PullPolicy.schema,
    orNull "imagePullSecret" localReference,
    optional "replicas"
      (.ruled "self >= 0" "replicas must not be negative" (int32From defaultReplicas)),
    orNull "config" (.described
      "Broker configuration, rendered verbatim into the cluster ConfigMap." .text),
    optional "env" (.list envVar),
    orNull "resources" Schema.resources,
    orNull "nodeSelector" (.map .text),
    orNull "tolerations" (.list toleration),
    orNull "affinity" Schema.affinity,
    orNull "serviceAccountName" .text,
    optional "dashboardPort" (int32From defaultDashboardPort),
    optional "updateStrategy" (.withDefault (toJson (default : UpdateStrategy)) UpdateStrategy.schema)]

def ClusterState.schema : Schema :=
  .described ("Lifecycle state of a broker cluster.\n\n" ++
    "`Empty -> InitResourceReady -> Running <-> BlueGreenUpdating`") (.word (all.map word))

def ClusterNode.schema : Schema :=
  .described "One live broker process, as reported by the management API." (.record [
    required "name" .text,
    required "status" .text,
    optional "version" .text,
    optional "runtimeRelease" .text,
    orNull "role" .text,
    orNull "connections" .int64])

def GenerationStatus.schema : Schema :=
  .record [
    required "name" .text,
    required "hash" (.described "Content hash of the template the generation was stamped from." .text),
    required "replicas" .int32,
    required "readyReplicas" .int32]

def EvacuationStats.schema : Schema :=
  .record (["initialSessions", "initialConnected", "currentSessions", "currentConnected"].map
    (required · .int64))

def Evacuation.schema : Schema :=
  .record [
    required "node" .text,
    required "stats" EvacuationStats.schema,
    required "state" .text,
    optional "sessionGoal" count,
    optional "connectionGoal" count,
    optional "sessionEvictionRate" count,
    optional "connectionEvictionRate" count,
    optional "sessionRecipients" texts]

def BlueGreenUpdate.schema : Schema :=
  .described "Present only while more than one generation is live." (.record [
    required "originGeneration" .text,
    required "currentGeneration" .text,
    required "startedAt" .text,
    optional "evacuations" (.list Evacuation.schema)])

def ClusterStatus.schema : Schema :=
  .record [
    optional "currentState" (.withDefault (toJson ClusterState.empty) ClusterState.schema),
    optional "conditions" (.list condition),
    optional "replicas"
      (.described "Desired replica count as last observed by the operator." (int32From 0)),
    optional "readyReplicas" (.described "Number of broker nodes reporting `running`." (int32From 0)),
    optional "nodes" (.list ClusterNode.schema),
    orNull "currentGeneration" (.described "The serving generation." GenerationStatus.schema),
    orNull "updateGeneration" (.described
      "The generation stamped from the desired template." GenerationStatus.schema),
    orNull "blueGreenUpdateStatus" BlueGreenUpdate.schema,
    orNull "observedGeneration" .int64]

def Cluster.definition : Definition where
  kind := "BrokerCluster"
  plural := "brokerclusters"
  singular := "brokercluster"
  shortName := "bc"
  columns := [
    ⟨"State", "string", ".status.currentState"⟩, ⟨"Ready", "integer", ".status.readyReplicas"⟩,
    ⟨"Desired", "integer", ".status.replicas"⟩,
    ⟨"Generation", "string", ".status.currentGeneration.name"⟩, .age]
  spec := ClusterSpec.schema
  status := ClusterStatus.schema

/-! ### Jobs -/

def Schema.threshold : Schema :=
  .described "Decimal string, e.g. `\"1.1\"`." .text

def RebalanceStrategy.schema : Schema :=
  .record [
    required "connEvictRate" (rate "connEvictRate" .int32),
    required "sessEvictRate" (rate "sessEvictRate" .int32),
    orNull "waitTakeover" .int32,
    orNull "waitHealthCheck" .int32,
    orNull "absConnThreshold" .int32,
    orNull "relConnThreshold" threshold,
    orNull "absSessThreshold" .int32,
    orNull "relSessThreshold" threshold]

def JobSpec.schema : Schema :=
  .described ("A one-shot, cluster-wide load rebalance against a `BrokerCluster` in the\n" ++
    "same namespace.") (.record [
    required "instanceName" (.described "Name of the target `BrokerCluster`."
      (.ruled "self != ''" "instanceName must be configured" .text)),
    required "rebalanceStrategy" RebalanceStrategy.schema])

def RebalanceState.schema : Schema :=
  .described "Per-coordinator rebalance progress, mirrored from the management API." (.record [
    required "state" .text,
    required "coordinatorNode" .text,
    optional "donors" texts,
    optional "recipients" texts,
    optional "connectionEvictionRate" count,
    optional "sessionEvictionRate" count])

def JobStatus.schema : Schema :=
  .record [
    orNull "phase" (.word (RebalancePhase.all.map (·.word))),
    optional "conditions" (.list condition),
    optional "rebalanceStates" (.list RebalanceState.schema),
    orNull "startedAt" .text,
    orNull "completedAt" .text]

def Job.definition : Definition where
  kind := "Rebalance"
  plural := "rebalances"
  singular := "rebalance"
  shortName := "rb"
  columns := [⟨"Cluster", "string", ".spec.instanceName"⟩, ⟨"Phase", "string", ".status.phase"⟩, .age]
  spec := JobSpec.schema
  status := JobStatus.schema

/-! ### Both -/

namespace Definition

def published : List Definition :=
  [Cluster.definition, Job.definition]

def ofKind? (kind : String) : Option Definition :=
  published.find? (·.kind == kind)

end Definition

end BrokerFleet
