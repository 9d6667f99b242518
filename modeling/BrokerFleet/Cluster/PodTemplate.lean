import BrokerFleet.Cluster.Basic
import BrokerFleet.Kubernetes.Workload

/-!
The pod template of a cluster. The operator sets the variables that make the pods find each other;
a variable that the user sets too is the user's.
-/

namespace BrokerFleet

open Json Kubernetes

def servingGate : String := "apps.broker.dev/on-serving"

def bootstrapKey : String := "bootstrap_api_key"

def configKey : String := "broker.conf"

def configMount : String := "/opt/broker/etc/broker.conf"

def bootstrapMount : String := "/opt/broker/data/bootstrap_api_key"

def dataMount : String := "/opt/broker/data/db"

structure PodTemplate where
  labels : Labels
  spec : Json
  deriving Inhabited

instance : ToJson PodTemplate where
  toJson t := .object [("metadata", .object [("labels", texts t.labels)]), ("spec", t.spec)]

namespace Cluster

def podNameVariable : EnvVar :=
  ⟨"POD_NAME", none, some (.object [("fieldRef", .object [("fieldPath", .string "metadata.name")])])⟩

def operatorEnv (c : Cluster) (ns : String) : List EnvVar := [
  podNameVariable,
  .plain "BROKER_NODE__NAME" ("broker@$(POD_NAME)." ++ c.headlessName ++ "." ++ ns ++ ".svc.cluster.local"),
  .plain "BROKER_CLUSTER__DISCOVERY_STRATEGY" "dns",
  .plain "BROKER_CLUSTER__DNS__NAME" (c.headlessName ++ "." ++ ns ++ ".svc.cluster.local"),
  .plain "BROKER_CLUSTER__DNS__RECORD_TYPE" "srv",
  .plain "BROKER_DASHBOARD__LISTENERS__HTTP__BIND" (toString c.spec.dashboardPort.toInt),
  .plain "BROKER_API_KEY__BOOTSTRAP_FILE" ("\"" ++ bootstrapMount ++ "\"")]

def overlay (env : List EnvVar) (v : EnvVar) : List EnvVar :=
  env.filter (·.name != v.name) ++ [v]

def env (c : Cluster) (ns : String) : List EnvVar :=
  c.spec.env.foldl overlay (c.operatorEnv ns)

def port (c : Cluster) : Json := toJson c.spec.dashboardPort

def statusProbe (c : Cluster) (initialDelay : Int) : Json :=
  .object [
    ("failureThreshold", .int 12),
    ("httpGet", .object [("path", .string "/status"), ("port", c.port)]),
    ("initialDelaySeconds", .int initialDelay),
    ("periodSeconds", .int 5)]

def fileMount (volume path file : String) : Json :=
  .object [
    ("mountPath", .string path), ("name", .string volume), ("readOnly", .bool true),
    ("subPath", .string file)]

def container (c : Cluster) (ns : String) : Json :=
  record [
    ("env", some (.array ((c.env ns).map toJson))),
    ("image", some (.string c.spec.image)),
    ("imagePullPolicy", c.spec.pullPolicy.map toJson),
    ("livenessProbe", some (c.statusProbe 60)),
    ("name", some (.string "broker")),
    ("ports", some (.array [.object [
      ("containerPort", c.port), ("name", .string "dashboard"), ("protocol", .string "TCP")]])),
    ("readinessProbe", some (c.statusProbe 10)),
    ("resources", c.spec.resources),
    ("volumeMounts", some (.array [
      fileMount "broker-config" configMount configKey,
      fileMount "bootstrap-api-key" bootstrapMount bootstrapKey,
      .object [("mountPath", .string dataMount), ("name", .string "broker-data")]]))]

def podSpec (c : Cluster) (ns : String) : Json :=
  record [
    ("affinity", c.spec.affinity),
    ("containers", some (.array [c.container ns])),
    ("imagePullSecrets", c.spec.pullSecret.map fun secret => .array [secret]),
    ("nodeSelector", c.spec.nodeSelector),
    ("readinessGates", some (.array [.object [("conditionType", .string servingGate)]])),
    ("securityContext", some (.object [
      ("fsGroup", .int 1000), ("fsGroupChangePolicy", .string "OnRootMismatch"),
      ("runAsUser", .int 1000)])),
    ("serviceAccountName", c.spec.serviceAccount.map .string),
    ("tolerations", c.spec.tolerations),
    ("volumes", some (.array [
      .object [
        ("configMap", .object [("name", .string c.configName)]), ("name", .string "broker-config")],
      .object [
        ("name", .string "bootstrap-api-key"),
        ("secret", .object [("secretName", .string c.secretName)])],
      .object [("emptyDir", .object []), ("name", .string "broker-data")]]))]

/-- The template that every generation is stamped from. It carries no hash; the hash is made from
it. -/
def podTemplate? (c : Cluster) : Option PodTemplate :=
  c.ns?.map fun ns => ⟨c.labels, c.podSpec ns⟩

end Cluster

end BrokerFleet
