import BrokerFleet.Definition.Schema

/-!
The schema of affinity: which nodes pods are placed on, by the labels of the nodes and by the pods that
already run there.
-/

namespace BrokerFleet.Schema

/-! ### Selectors -/

def requirement (note keyNote operatorNote valuesNote : String) : Schema :=
  .described note (.record [
    required "key" (.described keyNote .text),
    required "operator" (.described operatorNote .text),
    optional "values" (.described valuesNote texts)])

def nodeRequirement : Schema :=
  requirement
    ("A node selector requirement is a selector that contains values, a key, and an operator that relates " ++
      "the key and values.")
    "The label key that the selector applies to."
    ("Represents a key's relationship to a set of values. Valid operators are In, NotIn, Exists, " ++
      "DoesNotExist. Gt, and Lt.")
    ("An array of string values. If the operator is In or NotIn, the values array must be non-empty. If the " ++
      "operator is Exists or DoesNotExist, the values array must be empty. If the operator is Gt or Lt, the " ++
      "values array must have a single element, which will be interpreted as an integer. This array is " ++
      "replaced during a strategic merge patch.")

def labelRequirement : Schema :=
  requirement
    ("A label selector requirement is a selector that contains values, a key, and an operator that relates " ++
      "the key and values.")
    "key is the label key that the selector applies to."
    ("operator represents a key's relationship to a set of values. Valid operators are In, NotIn, Exists " ++
      "and DoesNotExist.")
    ("values is an array of string values. If the operator is In or NotIn, the values array must be " ++
      "non-empty. If the operator is Exists or DoesNotExist, the values array must be empty. This array is " ++
      "replaced during a strategic merge patch.")

def labelSelector (note : String) : Schema :=
  .described note (.record [
    optional "matchExpressions" (.described
      "matchExpressions is a list of label selector requirements. The requirements are ANDed."
      (.list labelRequirement)),
    optional "matchLabels" (.described ("matchLabels is a map of \x7bkey,value\x7d pairs. A single " ++
      "\x7bkey,value\x7d in the matchLabels map is equivalent to an element of matchExpressions, whose key " ++
      "field is \"key\", the operator is \"In\", and the values array contains only \"value\". The " ++
      "requirements are ANDed.") (.map .text))])

/-! ### Nodes -/

def nodeTerm (note : String) : Schema :=
  .described note (.record [
    optional "matchExpressions" (.described "A list of node selector requirements by node's labels."
      (.list nodeRequirement)),
    optional "matchFields" (.described "A list of node selector requirements by node's fields."
      (.list nodeRequirement))])

def weightedNodeTerm : Schema :=
  .described ("An empty preferred scheduling term matches all objects with implicit weight 0 (i.e. it's a " ++
    "no-op). A null preferred scheduling term matches no objects (i.e. is also a no-op).") (.record [
    required "preference" (nodeTerm "A node selector term, associated with the corresponding weight."),
    required "weight" (.described ("Weight associated with matching the corresponding nodeSelectorTerm, in " ++
      "the range 1-100.") .int32)])

def nodeSelector (note : String) : Schema :=
  .described note (.record [
    required "nodeSelectorTerms" (.described
      "Required. A list of node selector terms. The terms are ORed."
      (.list (nodeTerm ("A null or empty node selector term matches no objects. The requirements of them are " ++
        "ANDed. The TopologySelectorTerm type implements a subset of the NodeSelectorTerm."))))])

def preferredNote (expressions criterion : String) : String :=
  "The scheduler will prefer to schedule pods to nodes that satisfy the " ++ expressions ++
  " expressions specified by this field, but it may choose a node that violates one or more of the " ++
  "expressions. The node that is most preferred is the one with the greatest sum of weights, i.e. for each " ++
  "node that meets all of the scheduling requirements (resource request, requiredDuringScheduling " ++
  expressions ++ " expressions, etc.), compute a sum by iterating through the elements of this field and " ++
  "adding \"weight\" to the sum if the node " ++ criterion ++
  "; the node(s) with the highest sum are the most preferred."

def requiredNote (requirements event : String) : String :=
  "If the " ++ requirements ++ " requirements specified by this field are not met at scheduling time, the " ++
  "pod will not be scheduled onto the node. If the " ++ requirements ++ " requirements specified by this " ++
  "field cease to be met at some point during pod execution (e.g. due to " ++ event ++
  "), the system may or may not try to eventually evict the pod from its node."

def nodeAffinity : Schema :=
  .described "Describes node affinity scheduling rules for the pod." (.record [
    optional "preferredDuringSchedulingIgnoredDuringExecution" (.described
      (preferredNote "affinity" "matches the corresponding matchExpressions") (.list weightedNodeTerm)),
    optional "requiredDuringSchedulingIgnoredDuringExecution"
      (nodeSelector (requiredNote "affinity" "an update"))])

/-! ### Pods -/

def labelKeysNote (field inputWord : String) (relation : String) : String :=
  inputWord ++ " is a set of pod label keys to select which pods will be taken into consideration. The keys " ++
  "are used to lookup values from the incoming pod labels, those key-value labels are merged with " ++
  "`labelSelector` as `key " ++ relation ++ " (value)` to select the group of existing pods which pods will " ++
  "be taken into consideration for the incoming pod's pod (anti) affinity. Keys that don't exist in the " ++
  "incoming pod labels will be ignored. The default value is empty. The same key is forbidden to exist in " ++
  "both " ++ field ++ " and labelSelector. Also, " ++ field ++ " cannot be set when labelSelector isn't " ++
  "set. This is a beta field and requires enabling MatchLabelKeysInPodAffinity feature gate (enabled by " ++
  "default)."

def podTerm (note : String) : Schema :=
  .described note (.record [
    optional "labelSelector" (labelSelector ("A label query over a set of resources, in this case pods. If " ++
      "it's null, this PodAffinityTerm matches with no Pods.")),
    optional "matchLabelKeys" (.described (labelKeysNote "matchLabelKeys" "MatchLabelKeys" "in") texts),
    optional "mismatchLabelKeys" (.described
      (labelKeysNote "mismatchLabelKeys" "MismatchLabelKeys" "notin") texts),
    optional "namespaceSelector" (labelSelector ("A label query over the set of namespaces that the term " ++
      "applies to. The term is applied to the union of the namespaces selected by this field and the ones " ++
      "listed in the namespaces field. null selector and null or empty namespaces list means \"this pod's " ++
      "namespace\". An empty selector (\x7b\x7d) matches all namespaces.")),
    optional "namespaces" (.described ("namespaces specifies a static list of namespace names that the term " ++
      "applies to. The term is applied to the union of the namespaces listed in this field and the ones " ++
      "selected by namespaceSelector. null or empty namespaces list and null namespaceSelector means " ++
      "\"this pod's namespace\".") texts),
    required "topologyKey" (.described ("This pod should be co-located (affinity) or not co-located " ++
      "(anti-affinity) with the pods matching the labelSelector in the specified namespaces, where " ++
      "co-located is defined as running on a node whose value of the label with key topologyKey matches " ++
      "that of any node on which any of the selected pods is running. Empty topologyKey is not allowed.")
      .text)])

def weightedPodTerm : Schema :=
  .described ("The weights of all of the matched WeightedPodAffinityTerm fields are added per-node to find " ++
    "the most preferred node(s)") (.record [
    required "podAffinityTerm" (podTerm
      "Required. A pod affinity term, associated with the corresponding weight."),
    required "weight" (.described ("weight associated with matching the corresponding podAffinityTerm, in " ++
      "the range 1-100.") .int32)])

def podAffinityOf (note kind : String) : Schema :=
  .described note (.record [
    optional "preferredDuringSchedulingIgnoredDuringExecution" (.described
      (preferredNote kind "has pods which matches the corresponding podAffinityTerm")
      (.list weightedPodTerm)),
    optional "requiredDuringSchedulingIgnoredDuringExecution" (.described
      (requiredNote kind "a pod label update" ++ " When there are multiple elements, the lists of nodes " ++
        "corresponding to each podAffinityTerm are intersected, i.e. all terms must be satisfied.")
      (.list (podTerm ("Defines a set of pods (namely those matching the labelSelector relative to the given " ++
        "namespace(s)) that this pod should be co-located (affinity) or not co-located (anti-affinity) " ++
        "with, where co-located is defined as running on a node whose value of the label with key " ++
        "<topologyKey> matches that of any node on which a pod of the set of pods is running"))))])

def podAffinity : Schema :=
  podAffinityOf ("Describes pod affinity scheduling rules (e.g. co-locate this pod in the same node, zone, " ++
    "etc. as some other pod(s)).") "affinity"

def podAntiAffinity : Schema :=
  podAffinityOf ("Describes pod anti-affinity scheduling rules (e.g. avoid putting this pod in the same " ++
    "node, zone, etc. as some other pod(s)).") "anti-affinity"

def affinity : Schema :=
  .described "Affinity is a group of affinity scheduling rules." (.record [
    optional "nodeAffinity" nodeAffinity,
    optional "podAffinity" podAffinity,
    optional "podAntiAffinity" podAntiAffinity])

end BrokerFleet.Schema
