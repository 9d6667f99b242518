import BrokerFleet.Cluster.Children
import BrokerFleet.Json.Patch
import BrokerFleet.Kubernetes.Address
import BrokerFleet.Kubernetes.Workload
import BrokerFleet.Rebalance.Job

/-!
What the operator writes to the Kubernetes API. A write names an object and says how it is to change;
`verb`, `kind`, `name` and `body` are the request that it makes.
-/

namespace BrokerFleet

open Json Kubernetes

inductive Verb where
  | create
  | apply
  | merge
  | strategic
  | edit
  | replaceStatus
  deriving DecidableEq, Repr, Inhabited

def Verb.word : Verb → String
  | .create => "create"
  | .apply => "apply"
  | .merge => "merge"
  | .strategic => "strategic"
  | .edit => "json"
  | .replaceStatus => "replace_status"

inductive Write where
  | createSecret (manifest : SecretManifest)
  | applyConfig (manifest : ConfigManifest)
  | applyService (manifest : ServiceManifest)
  | applyGeneration (manifest : GenerationManifest)
  | scaleGeneration (name : String) (replicas : Int32)
  | setServingGate (pod : String) (serving : Bool) (since : String)
  | clusterStatus (cluster : String) (status : ClusterStatus)
  | jobStatus (job : String) (status : JobStatus)
  | deferStop (job : String) (attempts : Nat) (retryAt : String)
  | editFinalizers (job : String) (edits : List PatchOp)
  deriving Inhabited

namespace Write

def kind : Write → ObjectKind
  | .createSecret _ => .secret
  | .applyConfig _ => .configMap
  | .applyService _ => .service
  | .applyGeneration _ | .scaleGeneration .. => .statefulSet
  | .setServingGate .. => .pod
  | .clusterStatus .. => .cluster
  | .jobStatus .. | .deferStop .. | .editFinalizers .. => .job

def name : Write → String
  | .createSecret m => m.metadata.name
  | .applyConfig m => m.metadata.name
  | .applyService m => m.metadata.name
  | .applyGeneration m => m.metadata.name
  | .scaleGeneration name _ => name
  | .setServingGate pod _ _ => pod
  | .clusterStatus cluster _ => cluster
  | .jobStatus job _ => job
  | .deferStop job _ _ => job
  | .editFinalizers job _ => job

def verb : Write → Verb
  | .createSecret _ => .create
  | .applyConfig _ | .applyService _ | .applyGeneration _ => .apply
  | .scaleGeneration .. | .deferStop .. => .merge
  | .setServingGate .. => .strategic
  | .clusterStatus .. | .jobStatus .. => .replaceStatus
  | .editFinalizers .. => .edit

def scalePatch (replicas : Int32) : Json :=
  .object [("spec", .object [("replicas", toJson replicas)])]

def gatePatch (serving : Bool) (since : String) : Json :=
  .object [("status", .object [("conditions", .array [.object [
    ("lastTransitionTime", .string since),
    ("status", .string (ConditionStatus.ofBool serving).word),
    ("type", .string servingGate)]])])]

def deferralPatch (attempts : Nat) (retryAt : String) : Json :=
  .object [("metadata", .object [("annotations", .object [
    (stopAttemptsKey, .string (toString attempts)),
    (stopRetryAtKey, .string retryAt)])])]

/-- The object or patch that is sent; of a write of status, the status. -/
def body : Write → Json
  | .createSecret m => toJson m
  | .applyConfig m => toJson m
  | .applyService m => toJson m
  | .applyGeneration m => toJson m
  | .scaleGeneration _ replicas => scalePatch replicas
  | .setServingGate _ serving since => gatePatch serving since
  | .clusterStatus _ status => toJson status
  | .jobStatus _ status => toJson status
  | .deferStop _ attempts retryAt => deferralPatch attempts retryAt
  | .editFinalizers _ edits => .array (edits.map PatchOp.toJson)

abbrev Answer : Write → Type
  | .applyGeneration _ | .scaleGeneration .. => StatefulSet
  | _ => Unit

end Write

end BrokerFleet
