import BrokerFleet.Kubernetes.PodShape

/-!
What is asked of a broker cluster: its edition, image and size, how its pods are to run, and how an
update moves clients.
-/

namespace BrokerFleet

open Json Kubernetes

inductive Edition where
  | enterprise
  | openSource
  deriving DecidableEq, Repr, Inhabited

namespace Edition

def word : Edition → String
  | .enterprise => "Enterprise"
  | .openSource => "OpenSource"

def all : List Edition :=
  [.enterprise, .openSource]

def ofWord? (word : String) : Option Edition :=
  all.find? (·.word == word)

instance : FromJson Edition := ⟨fun value => (word? value).bind ofWord?⟩
instance : ToJson Edition := ⟨fun edition => .string edition.word⟩

end Edition

structure Capability where
  edition : Edition
  supportsEvacuation : Bool
  supportsBlueGreen : Bool
  deriving DecidableEq, Repr, Inhabited

def Edition.capability (edition : Edition) : Capability :=
  match edition with
  | .enterprise => ⟨edition, true, true⟩
  | .openSource => ⟨edition, false, false⟩

inductive PullPolicy where
  | always
  | never
  | ifNotPresent
  deriving DecidableEq, Repr, Inhabited

namespace PullPolicy

def word : PullPolicy → String
  | .always => "Always"
  | .never => "Never"
  | .ifNotPresent => "IfNotPresent"

def all : List PullPolicy :=
  [.always, .never, .ifNotPresent]

def ofWord? (word : String) : Option PullPolicy :=
  all.find? (·.word == word)

instance : FromJson PullPolicy := ⟨fun value => (word? value).bind ofWord?⟩
instance : ToJson PullPolicy := ⟨fun policy => .string policy.word⟩

end PullPolicy

structure EvacuationStrategy where
  connEvictRate : Int32
  sessEvictRate : Int32
  waitTakeover : Option Int32
  waitHealthCheck : Option Int32
  deriving DecidableEq, Repr

namespace EvacuationStrategy

def defaultRate : Int32 := 1000

instance : Inhabited EvacuationStrategy := ⟨⟨defaultRate, defaultRate, none, none⟩⟩

instance : FromJson EvacuationStrategy where
  ofJson? value := do
    let f ← fields? ["connEvictRate", "sessEvictRate", "waitTakeover", "waitHealthCheck"] value
    some {
      connEvictRate := ← f.withDefault? "connEvictRate" defaultRate
      sessEvictRate := ← f.withDefault? "sessEvictRate" defaultRate
      waitTakeover := ← f.optional? "waitTakeover"
      waitHealthCheck := ← f.optional? "waitHealthCheck" }

instance : ToJson EvacuationStrategy where
  toJson s := record [
    ("connEvictRate", some (toJson s.connEvictRate)),
    ("sessEvictRate", some (toJson s.sessEvictRate)),
    ("waitTakeover", s.waitTakeover.map toJson),
    ("waitHealthCheck", s.waitHealthCheck.map toJson)]

end EvacuationStrategy

structure UpdateStrategy where
  initialDelaySeconds : Int32
  evacuationStrategy : EvacuationStrategy
  deriving DecidableEq, Repr

namespace UpdateStrategy

def defaultDelaySeconds : Int32 := 10

instance : Inhabited UpdateStrategy := ⟨⟨defaultDelaySeconds, default⟩⟩

instance : FromJson UpdateStrategy where
  ofJson? value := do
    let f ← fields? ["initialDelaySeconds", "evacuationStrategy"] value
    some {
      initialDelaySeconds := ← f.withDefault? "initialDelaySeconds" defaultDelaySeconds
      evacuationStrategy := ← f.withDefault? "evacuationStrategy" default }

instance : ToJson UpdateStrategy where
  toJson s := record [
    ("initialDelaySeconds", some (toJson s.initialDelaySeconds)),
    ("evacuationStrategy", some (toJson s.evacuationStrategy))]

end UpdateStrategy

structure EnvVar where
  name : String
  value : Option String
  source : Option Json
  deriving Inhabited

namespace EnvVar

def plain (name value : String) : EnvVar := ⟨name, some value, none⟩

instance : FromJson EnvVar where
  ofJson? value := do
    let f ← fields? [] (← Shape.envVar.normalize? value)
    some {
      name := ← f.required? "name"
      value := ← f.optional? "value"
      source := ← f.optional? "valueFrom" }

instance : ToJson EnvVar where
  toJson v := record [
    ("name", some (.string v.name)),
    ("value", v.value.map .string),
    ("valueFrom", v.source)]

end EnvVar

structure ClusterSpec where
  edition : Edition
  image : String
  pullPolicy : Option PullPolicy
  pullSecret : Option Json
  replicas : Int32
  config : Option String
  env : List EnvVar
  resources : Option Json
  nodeSelector : Option Json
  tolerations : Option Json
  affinity : Option Json
  serviceAccount : Option String
  dashboardPort : Int32
  updateStrategy : UpdateStrategy
  deriving Inhabited

namespace ClusterSpec

def defaultReplicas : Int32 := 2

def defaultDashboardPort : Int32 := 18083

def passed? (f : Fields) (name : String) (shape : Shape) : Option (Option Json) :=
  match f name with
  | none | some .null => some none
  | some value => (shape.normalize? value).map some

instance : FromJson ClusterSpec where
  ofJson? value := do
    let f ← fields? ["edition", "image", "imagePullPolicy", "imagePullSecret", "replicas", "config",
      "env", "resources", "nodeSelector", "tolerations", "affinity", "serviceAccountName",
      "dashboardPort", "updateStrategy"] value
    some {
      edition := ← f.withDefault? "edition" .enterprise
      image := ← f.required? "image"
      pullPolicy := ← f.optional? "imagePullPolicy"
      pullSecret := ← passed? f "imagePullSecret" Shape.localReference
      replicas := ← f.withDefault? "replicas" defaultReplicas
      config := ← f.optional? "config"
      env := ← f.withDefault? "env" []
      resources := ← passed? f "resources" Shape.resources
      nodeSelector := ← passed? f "nodeSelector" Shape.textMap
      tolerations := ← passed? f "tolerations" (.list Shape.toleration)
      affinity := ← passed? f "affinity" Shape.affinity
      serviceAccount := ← f.optional? "serviceAccountName"
      dashboardPort := ← f.withDefault? "dashboardPort" defaultDashboardPort
      updateStrategy := ← f.withDefault? "updateStrategy" default }

instance : ToJson ClusterSpec where
  toJson s := record [
    ("edition", some (toJson s.edition)),
    ("image", some (.string s.image)),
    ("imagePullPolicy", s.pullPolicy.map toJson),
    ("imagePullSecret", s.pullSecret),
    ("replicas", some (toJson s.replicas)),
    ("config", s.config.map .string),
    ("env", unlessEmpty (s.env.map toJson)),
    ("resources", s.resources),
    ("nodeSelector", s.nodeSelector),
    ("tolerations", s.tolerations),
    ("affinity", s.affinity),
    ("serviceAccountName", s.serviceAccount.map .string),
    ("dashboardPort", some (toJson s.dashboardPort)),
    ("updateStrategy", some (toJson s.updateStrategy))]

end ClusterSpec

end BrokerFleet
