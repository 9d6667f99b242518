import BrokerFleet.Kubernetes.Meta

/-!
The shapes of pod templates and of what they hold: containers, probes, volumes, affinity.
-/

namespace BrokerFleet.Kubernetes.Shape

def localReference : Shape := objectOf [("name", .string)] []

def labelSelector : Shape :=
  objectOf [] [
    ("matchExpressions", .list (objectOf (each .string ["key", "operator"]) [("values", textList)])),
    ("matchLabels", textMap)]

/-! ### Environment, probes and life cycle -/

def fieldSelector : Shape := objectOf [("fieldPath", .string)] [("apiVersion", .string)]

def resourceFieldSelector : Shape :=
  objectOf [("resource", .string)] [("containerName", .string), ("divisor", .quantity)]

def keySelector : Shape := objectOf (each .string ["key", "name"]) [("optional", .bool)]

def optionalReference : Shape := objectOf [("name", .string)] [("optional", .bool)]

def envSource : Shape :=
  objectOf [] [("configMapKeyRef", keySelector), ("fieldRef", fieldSelector),
    ("resourceFieldRef", resourceFieldSelector), ("secretKeyRef", keySelector)]

def envVar : Shape := objectOf [("name", .string)] [("value", .string), ("valueFrom", envSource)]

def envFrom : Shape :=
  objectOf [] [("configMapRef", optionalReference), ("prefix", .string),
    ("secretRef", optionalReference)]

def execAction : Shape := objectOf [] [("command", textList)]

def httpGet : Shape :=
  objectOf [("port", .intOrString)]
    [("host", .string), ("httpHeaders", .list (objectOf (each .string ["name", "value"]) [])),
      ("path", .string), ("scheme", .string)]

def tcpSocket : Shape := objectOf [("port", .intOrString)] [("host", .string)]

def probe : Shape :=
  objectOf [] ([("exec", execAction), ("grpc", objectOf [("port", .int32)] [("service", .string)]),
    ("httpGet", httpGet), ("tcpSocket", tcpSocket), ("terminationGracePeriodSeconds", .int64)] ++
    each .int32 ["failureThreshold", "initialDelaySeconds", "periodSeconds", "successThreshold",
      "timeoutSeconds"])

def lifecycleHandler : Shape :=
  objectOf [] [("exec", execAction), ("httpGet", httpGet),
    ("sleep", objectOf [("seconds", .int64)] []), ("tcpSocket", tcpSocket)]

/-! ### Resources and security -/

def resources : Shape :=
  objectOf [] [("claims", .list (objectOf [("name", .string)] [("request", .string)])),
    ("limits", quantities), ("requests", quantities)]

def seLinux : Shape := objectOf [] (each .string ["level", "role", "type", "user"])

def profile : Shape := objectOf [("type", .string)] [("localhostProfile", .string)]

def windowsOptions : Shape :=
  objectOf [] (("hostProcess", .bool) ::
    each .string ["gmsaCredentialSpec", "gmsaCredentialSpecName", "runAsUserName"])

def securityContext : Shape :=
  objectOf [] (each .bool ["allowPrivilegeEscalation", "privileged", "readOnlyRootFilesystem",
      "runAsNonRoot"] ++
    each .int64 ["runAsGroup", "runAsUser"] ++
    [("appArmorProfile", profile), ("capabilities", objectOf [] (each textList ["add", "drop"])),
      ("procMount", .string), ("seLinuxOptions", seLinux), ("seccompProfile", profile),
      ("windowsOptions", windowsOptions)])

def podSecurityContext : Shape :=
  objectOf [] (each .int64 ["fsGroup", "runAsGroup", "runAsUser"] ++
    [("appArmorProfile", profile), ("fsGroupChangePolicy", .string), ("runAsNonRoot", .bool),
      ("seLinuxOptions", seLinux), ("seccompProfile", profile), ("supplementalGroups", .list .int64),
      ("supplementalGroupsPolicy", .string),
      ("sysctls", .list (objectOf (each .string ["name", "value"]) [])),
      ("windowsOptions", windowsOptions)])

def containerMembers : List (String × Shape) :=
  each textList ["args", "command"] ++
  each .string ["image", "imagePullPolicy", "restartPolicy", "terminationMessagePath",
    "terminationMessagePolicy", "workingDir"] ++
  each .bool ["stdin", "stdinOnce", "tty"] ++
  each probe ["livenessProbe", "readinessProbe", "startupProbe"] ++
  [("env", .list envVar), ("envFrom", .list envFrom),
    ("lifecycle", objectOf [] (each lifecycleHandler ["postStart", "preStop"])),
    ("ports", .list (objectOf [("containerPort", .int32)]
      (("hostPort", .int32) :: each .string ["hostIP", "name", "protocol"]))),
    ("resizePolicy", .list (objectOf (each .string ["resourceName", "restartPolicy"]) [])),
    ("resources", resources), ("securityContext", securityContext),
    ("volumeDevices", .list (objectOf (each .string ["devicePath", "name"]) [])),
    ("volumeMounts", .list (objectOf (each .string ["mountPath", "name"])
      (("readOnly", .bool) ::
        each .string ["mountPropagation", "recursiveReadOnly", "subPath", "subPathExpr"])))]

def container : Shape := objectOf [("name", .string)] containerMembers

def ephemeralContainer : Shape :=
  objectOf [("name", .string)] (("targetContainerName", .string) :: containerMembers)

/-! ### Scheduling -/

def nodeSelectorTerm : Shape :=
  objectOf [] (each (.list (objectOf (each .string ["key", "operator"]) [("values", textList)]))
    ["matchExpressions", "matchFields"])

def nodeAffinity : Shape :=
  objectOf [] [
    ("preferredDuringSchedulingIgnoredDuringExecution",
      .list (objectOf [("preference", nodeSelectorTerm), ("weight", .int32)] [])),
    ("requiredDuringSchedulingIgnoredDuringExecution",
      objectOf [("nodeSelectorTerms", .list nodeSelectorTerm)] [])]

def podAffinityTerm : Shape :=
  objectOf [("topologyKey", .string)]
    (each labelSelector ["labelSelector", "namespaceSelector"] ++
      each textList ["matchLabelKeys", "mismatchLabelKeys", "namespaces"])

def podAffinity : Shape :=
  objectOf [] [
    ("preferredDuringSchedulingIgnoredDuringExecution",
      .list (objectOf [("podAffinityTerm", podAffinityTerm), ("weight", .int32)] [])),
    ("requiredDuringSchedulingIgnoredDuringExecution", .list podAffinityTerm)]

def affinity : Shape :=
  objectOf [] (("nodeAffinity", nodeAffinity) :: each podAffinity ["podAffinity", "podAntiAffinity"])

def toleration : Shape :=
  objectOf [] (("tolerationSeconds", .int64) :: each .string ["effect", "key", "operator", "value"])

def topologySpread : Shape :=
  objectOf [("maxSkew", .int32), ("topologyKey", .string), ("whenUnsatisfiable", .string)]
    [("labelSelector", labelSelector), ("matchLabelKeys", textList), ("minDomains", .int32),
      ("nodeAffinityPolicy", .string), ("nodeTaintsPolicy", .string)]

/-! ### Volumes -/

def keyToPath : Shape := objectOf (each .string ["key", "path"]) [("mode", .int32)]

def downwardFile : Shape :=
  objectOf [("path", .string)] [("fieldRef", fieldSelector), ("mode", .int32),
    ("resourceFieldRef", resourceFieldSelector)]

def claimSpec : Shape :=
  objectOf [] ([("accessModes", textList),
    ("dataSource", objectOf (each .string ["kind", "name"]) [("apiGroup", .string)]),
    ("dataSourceRef", objectOf (each .string ["kind", "name"]) (each .string ["apiGroup", "namespace"])),
    ("resources", objectOf [] (each quantities ["limits", "requests"])),
    ("selector", labelSelector)] ++
    each .string ["storageClassName", "volumeAttributesClassName", "volumeMode", "volumeName"])

def projectedSource : Shape :=
  objectOf [] [
    ("clusterTrustBundle", objectOf [("path", .string)] [("labelSelector", labelSelector),
      ("name", .string), ("optional", .bool), ("signerName", .string)]),
    ("configMap", objectOf [("name", .string)] [("items", .list keyToPath), ("optional", .bool)]),
    ("downwardAPI", objectOf [] [("items", .list downwardFile)]),
    ("secret", objectOf [("name", .string)] [("items", .list keyToPath), ("optional", .bool)]),
    ("serviceAccountToken", objectOf [("path", .string)]
      [("audience", .string), ("expirationSeconds", .int64)])]

def storageMembers : List (String × Shape) := [("fsType", .string), ("readOnly", .bool)]

def volume : Shape :=
  objectOf [("name", .string)] [
    ("awsElasticBlockStore", objectOf [("volumeID", .string)] (("partition", .int32) :: storageMembers)),
    ("azureDisk", objectOf (each .string ["diskName", "diskURI"])
      (each .string ["cachingMode", "kind"] ++ storageMembers)),
    ("azureFile", objectOf (each .string ["secretName", "shareName"]) [("readOnly", .bool)]),
    ("cephfs", objectOf [("monitors", textList)]
      (each .string ["path", "secretFile", "user"] ++ [("readOnly", .bool), ("secretRef", localReference)])),
    ("cinder", objectOf [("volumeID", .string)] (("secretRef", localReference) :: storageMembers)),
    ("configMap", objectOf [("name", .string)]
      [("defaultMode", .int32), ("items", .list keyToPath), ("optional", .bool)]),
    ("csi", objectOf [("driver", .string)]
      ([("nodePublishSecretRef", localReference), ("volumeAttributes", textMap)] ++ storageMembers)),
    ("downwardAPI", objectOf [] [("defaultMode", .int32), ("items", .list downwardFile)]),
    ("emptyDir", objectOf [] [("medium", .string), ("sizeLimit", .quantity)]),
    ("ephemeral", objectOf []
      [("volumeClaimTemplate", objectOf [("spec", claimSpec)] [("metadata", metaShape)])]),
    ("fc", objectOf [] ([("lun", .int32)] ++ each textList ["targetWWNs", "wwids"] ++ storageMembers)),
    ("flexVolume", objectOf [("driver", .string)]
      ([("options", textMap), ("secretRef", localReference)] ++ storageMembers)),
    ("flocker", objectOf [] (each .string ["datasetName", "datasetUUID"])),
    ("gcePersistentDisk", objectOf [("pdName", .string)] (("partition", .int32) :: storageMembers)),
    ("gitRepo", objectOf [("repository", .string)] (each .string ["directory", "revision"])),
    ("glusterfs", objectOf (each .string ["endpoints", "path"]) [("readOnly", .bool)]),
    ("hostPath", objectOf [("path", .string)] [("type", .string)]),
    ("image", objectOf [] (each .string ["pullPolicy", "reference"])),
    ("iscsi", objectOf (("lun", .int32) :: each .string ["iqn", "targetPortal"])
      (each .bool ["chapAuthDiscovery", "chapAuthSession"] ++
        each .string ["initiatorName", "iscsiInterface"] ++
        [("portals", textList), ("secretRef", localReference)] ++ storageMembers)),
    ("nfs", objectOf (each .string ["path", "server"]) [("readOnly", .bool)]),
    ("persistentVolumeClaim", objectOf [("claimName", .string)] [("readOnly", .bool)]),
    ("photonPersistentDisk", objectOf [("pdID", .string)] [("fsType", .string)]),
    ("portworxVolume", objectOf [("volumeID", .string)] storageMembers),
    ("projected", objectOf [] [("defaultMode", .int32), ("sources", .list projectedSource)]),
    ("quobyte", objectOf (each .string ["registry", "volume"])
      (("readOnly", .bool) :: each .string ["group", "tenant", "user"])),
    ("rbd", objectOf [("image", .string), ("monitors", textList)]
      (each .string ["keyring", "pool", "user"] ++ ("secretRef", localReference) :: storageMembers)),
    ("scaleIO", objectOf [("gateway", .string), ("secretRef", localReference), ("system", .string)]
      (("sslEnabled", .bool) ::
        each .string ["protectionDomain", "storageMode", "storagePool", "volumeName"] ++ storageMembers)),
    ("secret", objectOf [] [("defaultMode", .int32), ("items", .list keyToPath), ("optional", .bool),
      ("secretName", .string)]),
    ("storageos", objectOf [] (each .string ["volumeName", "volumeNamespace"] ++
      ("secretRef", localReference) :: storageMembers)),
    ("vsphereVolume", objectOf [("volumePath", .string)]
      (each .string ["fsType", "storagePolicyID", "storagePolicyName"]))]

/-! ### Pods -/

def podSpec : Shape :=
  objectOf [("containers", .list container)]
    (each .int64 ["activeDeadlineSeconds", "terminationGracePeriodSeconds"] ++
    each .bool ["automountServiceAccountToken", "enableServiceLinks", "hostIPC", "hostNetwork",
      "hostPID", "hostUsers", "setHostnameAsFQDN", "shareProcessNamespace"] ++
    each .string ["dnsPolicy", "hostname", "nodeName", "preemptionPolicy", "priorityClassName",
      "restartPolicy", "runtimeClassName", "schedulerName", "serviceAccount", "serviceAccountName",
      "subdomain"] ++
    [("affinity", affinity),
      ("dnsConfig", objectOf [] (each textList ["nameservers", "searches"] ++
        [("options", .list (objectOf [] (each .string ["name", "value"])))])),
      ("ephemeralContainers", .list ephemeralContainer),
      ("hostAliases", .list (objectOf [("ip", .string)] [("hostnames", textList)])),
      ("imagePullSecrets", .list localReference), ("initContainers", .list container),
      ("nodeSelector", textMap), ("os", objectOf [("name", .string)] []), ("overhead", quantities),
      ("priority", .int32),
      ("readinessGates", .list (objectOf [("conditionType", .string)] [])),
      ("resourceClaims", .list (objectOf [("name", .string)]
        (each .string ["resourceClaimName", "resourceClaimTemplateName"]))),
      ("schedulingGates", .list (objectOf [("name", .string)] [])),
      ("securityContext", podSecurityContext), ("tolerations", .list toleration),
      ("topologySpreadConstraints", .list topologySpread), ("volumes", .list volume)])

def podTemplate : Shape := objectOf [] [("metadata", metaShape), ("spec", podSpec)]

end BrokerFleet.Kubernetes.Shape
