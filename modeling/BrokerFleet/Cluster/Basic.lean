import BrokerFleet.Cluster.Spec
import BrokerFleet.Cluster.Status
import BrokerFleet.Text.Split

/-!
Broker clusters: the resource, and the names of everything that belongs to one. A replica's node is
named after its address, so that the pod can be read off the node's name.
-/

namespace BrokerFleet

open Json Kubernetes

def instanceLabel : String := "apps.broker.dev/instance"

def managedByLabel : String := "app.kubernetes.io/managed-by"

def managedBy : String := "broker-operator"

def apiGroup : String := "apps.broker.dev"

def kindVersion : String := "v1alpha1"

def apiVersion : String := apiGroup ++ "/" ++ kindVersion

structure Cluster where
  metadata : Meta
  spec : ClusterSpec
  status : Option ClusterStatus
  deriving Inhabited

/-- Reads a resource with metadata, a spec and an optional status. Given as a list it has all
three. -/
def resourceParts? (value : Json) : Option (Meta × Json × Json) :=
  match value with
  | .object members => do
    some (← (lookup "metadata" members).bind ofJson?, ← lookup "spec" members,
      (lookup "status" members).getD .null)
  | .array [metadata, spec, status] => (ofJson? metadata).map (·, spec, status)
  | _ => none

namespace Cluster

instance : FromJson Cluster where
  ofJson? value := do
    let (metadata, spec, status) ← resourceParts? value
    some ⟨metadata, ← ofJson? spec, ← ofJson? status⟩

instance : ToJson Cluster where
  toJson c := record [
    ("apiVersion", some (.string apiVersion)),
    ("kind", some (.string "BrokerCluster")),
    ("metadata", some (toJson c.metadata)),
    ("spec", some (toJson c.spec)),
    ("status", c.status.map toJson)]

def name (c : Cluster) : String := c.metadata.displayName

def ns? (c : Cluster) : Option String := c.metadata.ns?

def capability (c : Cluster) : Capability := c.spec.edition.capability

def owner (c : Cluster) : OwnerReference where
  apiVersion := apiVersion
  kind := "BrokerCluster"
  name := c.name
  uid := c.metadata.uid.getD ""
  controller := some true
  blockOwnerDeletion := some true

def labels (c : Cluster) : Labels :=
  [(managedByLabel, managedBy), (instanceLabel, c.name)]

def selector (c : Cluster) : String :=
  instanceLabel ++ "=" ++ c.name ++ "," ++ managedByLabel ++ "=" ++ managedBy

def headlessName (c : Cluster) : String := c.name ++ "-headless"

def listenersName (c : Cluster) : String := c.name ++ "-listeners"

def configName (c : Cluster) : String := c.name ++ "-config"

def secretName (c : Cluster) : String := c.name ++ "-bootstrap-api-key"

def domain (c : Cluster) (ns : String) : String :=
  c.headlessName ++ "." ++ ns ++ ".svc.cluster.local"

def hostOf (c : Cluster) (ns pod : String) : String :=
  pod ++ "." ++ c.domain ns

def replicaHost? (c : Cluster) (pod : String) : Option String :=
  c.ns?.map fun ns => c.hostOf ns pod

def nodeAt (host : String) : String := "broker@" ++ host

def nodeName? (c : Cluster) (pod : String) : Option String :=
  (c.replicaHost? pod).map nodeAt

/-- The port of the management API, the usual one if the spec names no valid port. -/
def dashboardPort (c : Cluster) : Nat :=
  let port := c.spec.dashboardPort.toInt
  if 0 ≤ port ∧ port < 65536 then port.toNat else ClusterSpec.defaultDashboardPort.toInt.toNat

def podOfNode? (node : String) : Option String := do
  let (_, host) ← Text.splitFirst? '@' node.toList
  let pod := Text.beforeFirst '.' host
  if pod.isEmpty then none else some (String.ofList pod)

def ofPod? (metadata : Meta) : Option (String × Option String) :=
  (metadata.label? instanceLabel).map (·, metadata.ns?)

end Cluster

end BrokerFleet
