import BrokerFleet.Cluster.PodTemplate
import BrokerFleet.Text.Utf8

/-!
The objects that the operator writes for a cluster: services, configuration, credentials, and the
StatefulSets that generations are.
-/

namespace BrokerFleet

open Json Kubernetes

structure ListenerPort where
  name : String
  protocol : String
  port : Int
  deriving DecidableEq, Repr, Inhabited

instance : ToJson ListenerPort where
  toJson p := .object [("name", toJson p.name), ("protocol", toJson p.protocol), ("port", toJson p.port)]

instance : FromJson ListenerPort where
  ofJson? value := do
    let port : Int32 ← (value.field? "port").bind ofJson?
    some ⟨← (value.field? "name").bind ofJson?, ← (value.field? "protocol").bind ofJson?, port.toInt⟩

/-- A port of a service; it leads to the same port of the pods. -/
structure ServicePort where
  name : String
  protocol : Option String
  port : Int
  deriving DecidableEq, Repr, Inhabited

instance : ToJson ServicePort where
  toJson p := record [
    ("name", some (.string p.name)),
    ("port", some (.int p.port)),
    ("protocol", p.protocol.map .string),
    ("targetPort", some (.int p.port))]

structure ChildMeta where
  name : String
  ns? : Option String
  owner : OwnerReference
  labels : Labels
  deriving DecidableEq, Repr, Inhabited

instance : ToJson ChildMeta where
  toJson m := record [
    ("labels", some (texts m.labels)),
    ("name", some (.string m.name)),
    ("namespace", m.ns?.map .string),
    ("ownerReferences", some (toJson [m.owner]))]

structure ServiceManifest where
  metadata : ChildMeta
  headless : Bool
  ports : List ServicePort
  selector : Labels
  deriving DecidableEq, Repr, Inhabited

instance : ToJson ServiceManifest where
  toJson s := .object [
    ("apiVersion", .string "v1"), ("kind", .string "Service"), ("metadata", toJson s.metadata),
    ("spec", record [
      ("clusterIP", if s.headless then some (.string "None") else none),
      ("ports", some (toJson s.ports)),
      ("publishNotReadyAddresses", if s.headless then some (.bool true) else none),
      ("selector", some (texts s.selector)),
      ("type", some (.string "ClusterIP"))])]

structure ConfigManifest where
  metadata : ChildMeta
  config : String
  deriving DecidableEq, Repr, Inhabited

instance : ToJson ConfigManifest where
  toJson m := .object [
    ("apiVersion", .string "v1"), ("data", .object [(configKey, .string m.config)]),
    ("kind", .string "ConfigMap"), ("metadata", toJson m.metadata)]

structure SecretManifest where
  metadata : ChildMeta
  credentials : String
  deriving DecidableEq, Repr, Inhabited

instance : ToJson SecretManifest where
  toJson m := .object [
    ("apiVersion", .string "v1"),
    ("data", .object [(bootstrapKey, .string (Text.Base64.encode (Text.Utf8.encode m.credentials)))]),
    ("kind", .string "Secret"), ("metadata", toJson m.metadata), ("type", .string "Opaque")]

structure GenerationManifest where
  metadata : ChildMeta
  replicas : Int32
  serviceName : String
  podSpec : Json
  deriving Inhabited

instance : ToJson GenerationManifest where
  toJson g :=
    let labels := texts g.metadata.labels
    .object [
      ("apiVersion", .string "apps/v1"), ("kind", .string "StatefulSet"),
      ("metadata", toJson g.metadata),
      ("spec", .object [
        ("podManagementPolicy", .string "Parallel"),
        ("replicas", toJson g.replicas),
        ("selector", .object [("matchLabels", labels)]),
        ("serviceName", .string g.serviceName),
        ("template", .object [("metadata", .object [("labels", labels)]), ("spec", g.podSpec)])])]

namespace Cluster

def childMeta (c : Cluster) (name : String) : ChildMeta :=
  ⟨name, c.ns?, c.owner, c.labels⟩

def headlessService (c : Cluster) : ServiceManifest where
  metadata := c.childMeta c.headlessName
  headless := true
  ports := [⟨"dashboard", none, c.spec.dashboardPort.toInt⟩]
  selector := c.labels

def listenersService (c : Cluster) (ports : List ListenerPort) : ServiceManifest where
  metadata := c.childMeta c.listenersName
  headless := false
  ports := ports.map fun p => ⟨p.name, some p.protocol, p.port⟩
  selector := c.labels

def configMap (c : Cluster) : ConfigManifest where
  metadata := c.childMeta c.configName
  config := c.spec.config.getD ""

def bootstrapUser : String := "broker_operator_controller"

def bootstrapKeyLength : Nat := 32

def bootstrapSecret (c : Cluster) (key : String) : SecretManifest where
  metadata := c.childMeta c.secretName
  credentials := bootstrapUser ++ ":" ++ key

def generation? (c : Cluster) (name hash : String) (replicas : Int32) : Option GenerationManifest :=
  c.podTemplate?.map fun template => {
    metadata := { c.childMeta name with labels := Labels.set hashLabel hash c.labels }
    replicas
    serviceName := c.headlessName
    podSpec := template.spec }

end Cluster

end BrokerFleet
