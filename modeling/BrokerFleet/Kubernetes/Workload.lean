import BrokerFleet.Kubernetes.PodShape

/-!
StatefulSets, pods and secrets as the operator sees them.
-/

namespace BrokerFleet.Kubernetes

open Json Shape

namespace Shape

def resource (apiVersion kind : String) (members : List (String × Shape)) : Shape :=
  objectOf [("apiVersion", .constant apiVersion), ("kind", .constant kind), ("metadata", metaShape)]
    members

def condition (times : List String) : Shape :=
  objectOf (each .string ["status", "type"]) (each .string ["message", "reason"] ++ each .time times)

def containerState : Shape :=
  objectOf [] [
    ("running", objectOf [] [("startedAt", .time)]),
    ("terminated", objectOf [("exitCode", .int32)] ([("signal", .int32)] ++
      each .time ["finishedAt", "startedAt"] ++ each .string ["containerID", "message", "reason"])),
    ("waiting", objectOf [] (each .string ["message", "reason"]))]

def containerStatus : Shape :=
  objectOf [("image", .string), ("imageID", .string), ("name", .string), ("ready", .bool),
      ("restartCount", .int32)]
    (each containerState ["lastState", "state"] ++
    [("allocatedResources", quantities),
      ("allocatedResourcesStatus", .list (objectOf [("name", .string)]
        [("resources", .list (objectOf [("resourceID", .string)] [("health", .string)]))])),
      ("containerID", .string), ("resources", resources), ("started", .bool),
      ("user", objectOf [] [("linux", objectOf (each .int64 ["gid", "uid"])
        [("supplementalGroups", .list .int64)])]),
      ("volumeMounts", .list (objectOf (each .string ["mountPath", "name"])
        [("readOnly", .bool), ("recursiveReadOnly", .string)]))])

def podStatus : Shape :=
  objectOf [] (
    each (.list containerStatus) ["containerStatuses", "ephemeralContainerStatuses",
      "initContainerStatuses"] ++
    each .string ["hostIP", "message", "nominatedNodeName", "phase", "podIP", "qosClass", "reason",
      "resize"] ++
    each (.list (objectOf [("ip", .string)] [])) ["hostIPs", "podIPs"] ++
    [("conditions", .list (condition ["lastProbeTime", "lastTransitionTime"])),
      ("resourceClaimStatuses", .list (objectOf [("name", .string)] [("resourceClaimName", .string)])),
      ("startTime", .time)])

def pod : Shape := resource "v1" "Pod" [("spec", podSpec), ("status", podStatus)]

def claim : Shape :=
  resource "v1" "PersistentVolumeClaim" [("spec", claimSpec),
    ("status", objectOf [] ([("accessModes", textList), ("allocatedResourceStatuses", textMap),
      ("conditions", .list (condition ["lastProbeTime", "lastTransitionTime"])),
      ("modifyVolumeStatus", objectOf [("status", .string)] [("targetVolumeAttributesClassName", .string)])] ++
      each quantities ["allocatedResources", "capacity"] ++
      each .string ["currentVolumeAttributesClassName", "phase"]))]

def statefulSetSpec : Shape :=
  objectOf [("selector", labelSelector), ("template", podTemplate)]
    (each .int32 ["minReadySeconds", "replicas", "revisionHistoryLimit"] ++
    [("ordinals", objectOf [] [("start", .int32)]),
      ("persistentVolumeClaimRetentionPolicy", objectOf [] (each .string ["whenDeleted", "whenScaled"])),
      ("podManagementPolicy", .string), ("serviceName", .string),
      ("updateStrategy", objectOf [] [("rollingUpdate", objectOf []
        [("maxUnavailable", .intOrString), ("partition", .int32)]), ("type", .string)]),
      ("volumeClaimTemplates", .list claim)])

def statefulSet : Shape :=
  resource "apps/v1" "StatefulSet" [("spec", statefulSetSpec),
    ("status", objectOf [("replicas", .int32)] (
      each .int32 ["availableReplicas", "collisionCount", "currentReplicas", "readyReplicas",
        "updatedReplicas"] ++
      each .string ["currentRevision", "updateRevision"] ++
      [("conditions", .list (condition ["lastTransitionTime"])), ("observedGeneration", .int64)]))]

def secret : Shape :=
  resource "v1" "Secret" [("data", .map .bytes), ("immutable", .bool), ("stringData", textMap),
    ("type", .string)]

end Shape

def hashLabel : String := "apps.broker.dev/pod-template-hash"

structure StatefulSet where
  name : Option String
  hash : Option String
  replicas : Option Int32
  created : Option Instant
  deriving DecidableEq, Repr, Inhabited

namespace StatefulSet

instance : FromJson StatefulSet where
  ofJson? value := do
    let f ← fields? [] (← Shape.statefulSet.normalize? value)
    let metadata ← Meta.ofResource? value
    some {
      name := metadata.name
      hash := metadata.label? hashLabel
      replicas := (f "spec").bind fun spec => (spec.field? "replicas").bind ofJson?
      created := metadata.created }

end StatefulSet

structure PodCondition where
  type : String
  holds : Bool
  deriving DecidableEq, Repr, Inhabited

structure Pod where
  name : String
  owners : List OwnerReference
  hash : Option String
  conditions : List PodCondition
  deriving DecidableEq, Repr, Inhabited

namespace Pod

def conditionOf? (value : Json) : Option PodCondition := do
  let type : String ← (value.field? "type").bind ofJson?
  let status : String ← (value.field? "status").bind ofJson?
  some ⟨type, status == "True"⟩

/-- Whether the first condition of that type holds, if there is one. -/
def condition? (pod : Pod) (type : String) : Option Bool :=
  (pod.conditions.find? (·.type == type)).map (·.holds)

instance : FromJson Pod where
  ofJson? value := do
    let f ← fields? [] (← Shape.pod.normalize? value)
    let metadata ← Meta.ofResource? value
    let conditions := match (f "status").bind (·.field? "conditions") with
      | some (.array items) => items.filterMap conditionOf?
      | _ => []
    some {
      name := metadata.displayName
      owners := metadata.owners.getD []
      hash := metadata.label? hashLabel
      conditions }

end Pod

structure Secret where
  data : Option (List (String × List UInt8))
  deriving DecidableEq, Repr, Inhabited

namespace Secret

def entry? (name : String) (secret : Secret) : Option (List UInt8) :=
  secret.data.bind fun data => (data.find? (·.1 == name)).map (·.2)

instance : FromJson Secret where
  ofJson? value := do
    let f ← fields? [] (← Shape.secret.normalize? value)
    match f "data" with
    | some (.object members) =>
      let data ← members.mapM fun member : String × Json => do
        let text : String ← ofJson? member.2
        some (member.1, ← Text.Base64.decode? text)
      some ⟨some data⟩
    | _ => some ⟨none⟩

end Secret

end BrokerFleet.Kubernetes
