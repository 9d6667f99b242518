import BrokerFleet.Definition.Schema
import BrokerFleet.Net.Url

/-!
The schemas of the parts of a pod that the spec of a cluster takes over as they are: references, variables
of the environment, resources and tolerations.
-/

namespace BrokerFleet.Schema

def page (path : String) : String :=
  "https://kubernetes.io/docs/concepts/" ++ path

def referentName : String × Bool × Schema :=
  required "name" (.described ("Name of the referent. This field is effectively required, but due to " ++
    "backwards compatibility is allowed to be empty. Instances of this type with an empty value here are " ++
    "almost certainly wrong. More info: " ++
    page "overview/working-with-objects/names/#names") .text)

def localReference : Schema :=
  .described ("LocalObjectReference contains enough information to let you locate the referenced object " ++
    "inside the same namespace.") (.record [referentName])

/-! ### Amounts -/

def quantityNote : String :=
  "Quantity is a fixed-point representation of a number. It provides convenient marshaling/unmarshaling in " ++
  "JSON and YAML, in addition to String() and AsInt64() accessors.\n\nThe serialization format is:\n\n" ++
  "``` <quantity>        ::= <signedNumber><suffix>\n\n\t(Note that <suffix> may be empty, from the \"\" case " ++
  "in <decimalSI>.)\n\n<digit>           ::= 0 | 1 | ... | 9 <digits>          ::= <digit> | <digit><digits> " ++
  "<number>          ::= <digits> | <digits>.<digits> | <digits>. | .<digits> <sign>            ::= \"+\" | " ++
  "\"-\" <signedNumber>    ::= <number> | <sign><number> <suffix>          ::= <binarySI> | " ++
  "<decimalExponent> | <decimalSI> <binarySI>        ::= Ki | Mi | Gi | Ti | Pi | Ei\n\n\t(International " ++
  "System of units; See: " ++ Net.Url.scheme ++ "physics.nist.gov/cuu/Units/binary.html" ++ ")\n\n" ++
  "<decimalSI>       ::= m | \"\" | k | M | G | T | P | E\n\n\t(Note that 1024 = 1Ki but 1000 = 1k; I didn't choose " ++
  "the capitalization.)\n\n<decimalExponent> ::= \"e\" <signedNumber> | \"E\" <signedNumber> ```\n\nNo matter which " ++
  "of the three exponent forms is used, no quantity may represent a number greater than 2^63-1 in magnitude, " ++
  "nor may it have more than 3 decimal places. Numbers larger or more precise will be capped or rounded up. " ++
  "(E.g.: 0.1m will rounded up to 1m.) This may be extended in the future if we require larger or smaller " ++
  "quantities.\n\nWhen a Quantity is parsed from a string, it will remember the type of suffix it had, and " ++
  "will use the same type again when it is serialized.\n\nBefore serializing, Quantity will be put in " ++
  "\"canonical form\". This means that Exponent/suffix will be adjusted up or down (with a corresponding " ++
  "increase or decrease in Mantissa) such that:\n\n- No precision is lost - No fractional digits will be " ++
  "emitted - The exponent (or suffix) is as large as possible.\n\nThe sign will be omitted unless the number " ++
  "is negative.\n\nExamples:\n\n- 1.5 will be serialized as \"1500m\" - 1.5Gi will be serialized as " ++
  "\"1536Mi\"\n\nNote that the quantity will NEVER be internally represented by a floating point number. " ++
  "That is the whole point of this exercise.\n\nNon-canonical values will still parse as long as they are " ++
  "well formed, but will be re-emitted in their canonical form. (So always use canonical form, or don't " ++
  "diff.)\n\nThis format is intended to make it difficult to use these numbers without writing some sort of " ++
  "special handling code in the hopes that that will cause implementors to also use a fixed point " ++
  "implementation."

def quantity : Schema := .described quantityNote .intOrText

def resourceClaim : Schema :=
  .described "ResourceClaim references one entry in PodSpec.ResourceClaims." (.record [
    required "name" (.described ("Name must match the name of one entry in pod.spec.resourceClaims of the " ++
      "Pod where this field is used. It makes that resource available inside a container.") .text),
    optional "request" (.described ("Request is the name chosen for a request in the referenced claim. If " ++
      "empty, everything from the claim is made available, otherwise only the result of this request.")
      .text)])

def resources : Schema :=
  .described "ResourceRequirements describes the compute resource requirements." (.record [
    optional "claims" (.described ("Claims lists the names of resources, defined in spec.resourceClaims, " ++
      "that are used by this container.\n\nThis is an alpha field and requires enabling the " ++
      "DynamicResourceAllocation feature gate.\n\nThis field is immutable. It can only be set for " ++
      "containers.") (.list resourceClaim)),
    optional "limits" (.described ("Limits describes the maximum amount of compute resources allowed. More " ++
      "info: " ++ page "configuration/manage-resources-containers/") (.map quantity)),
    optional "requests" (.described ("Requests describes the minimum amount of compute resources required. " ++
      "If Requests is omitted for a container, it defaults to Limits if that is explicitly specified, " ++
      "otherwise to an implementation-defined value. Requests cannot exceed Limits. More info: " ++
      page "configuration/manage-resources-containers/") (.map quantity))])

/-! ### Environment -/

def keySelector (note keyNote optionalNote : String) : Schema :=
  .described note (.record [
    required "key" (.described keyNote .text),
    referentName,
    optional "optional" (.described optionalNote .truth)])

def fieldSelector (note : String) : Schema :=
  .described note (.record [
    optional "apiVersion" (.described
      "Version of the schema the FieldPath is written in terms of, defaults to \"v1\"." .text),
    required "fieldPath" (.described "Path of the field to select in the specified API version." .text)])

def resourceFieldSelector (note : String) : Schema :=
  .described note (.record [
    optional "containerName" (.described
      "Container name: required for volumes, optional for env vars" .text),
    orNull "divisor" (.described
      "Specifies the output format of the exposed resources, defaults to \"1\"" quantity),
    required "resource" (.described "Required: resource to select" .text)])

def envSource (note : String) : Schema :=
  .described note (.record [
    optional "configMapKeyRef" (keySelector "Selects a key of a ConfigMap." "The key to select."
      "Specify whether the ConfigMap or its key must be defined"),
    optional "fieldRef" (fieldSelector ("Selects a field of the pod: supports metadata.name, " ++
      "metadata.namespace, `metadata.labels['<KEY>']`, `metadata.annotations['<KEY>']`, spec.nodeName, " ++
      "spec.serviceAccountName, status.hostIP, status.podIP, status.podIPs.")),
    optional "resourceFieldRef" (resourceFieldSelector ("Selects a resource of the container: only " ++
      "resources limits and requests (limits.cpu, limits.memory, limits.ephemeral-storage, requests.cpu, " ++
      "requests.memory and requests.ephemeral-storage) are currently supported.")),
    optional "secretKeyRef" (keySelector "Selects a key of a secret in the pod's namespace"
      "The key of the secret to select from.  Must be a valid secret key."
      "Specify whether the Secret or its key must be defined")])

def envVar : Schema :=
  .described "EnvVar represents an environment variable present in a Container." (.record [
    required "name" (.described "Name of the environment variable. Must be a C_IDENTIFIER." .text),
    optional "value" (.described ("Variable references $(VAR_NAME) are expanded using the previously " ++
      "defined environment variables in the container and any service environment variables. If a variable " ++
      "cannot be resolved, the reference in the input string will be unchanged. Double $$ are reduced to a " ++
      "single $, which allows for escaping the $(VAR_NAME) syntax: i.e. \"$$(VAR_NAME)\" will produce the " ++
      "string literal \"$(VAR_NAME)\". Escaped references will never be expanded, regardless of whether the " ++
      "variable exists or not. Defaults to \"\".") .text),
    optional "valueFrom" (envSource
      "Source for the environment variable's value. Cannot be used if value is not empty.")])

/-! ### Tolerations -/

def toleration : Schema :=
  .described ("The pod this Toleration is attached to tolerates any taint that matches the triple " ++
    "<key,value,effect> using the matching operator <operator>.") (.record [
    optional "effect" (.described ("Effect indicates the taint effect to match. Empty means match all " ++
      "taint effects. When specified, allowed values are NoSchedule, PreferNoSchedule and NoExecute.")
      .text),
    optional "key" (.described ("Key is the taint key that the toleration applies to. Empty means match " ++
      "all taint keys. If the key is empty, operator must be Exists; this combination means to match all " ++
      "values and all keys.") .text),
    optional "operator" (.described ("Operator represents a key's relationship to the value. Valid " ++
      "operators are Exists and Equal. Defaults to Equal. Exists is equivalent to wildcard for value, so " ++
      "that a pod can tolerate all taints of a particular category.") .text),
    optional "tolerationSeconds" (.described ("TolerationSeconds represents the period of time the " ++
      "toleration (which must be of effect NoExecute, otherwise this field is ignored) tolerates the taint. " ++
      "By default, it is not set, which means tolerate the taint forever (do not evict). Zero and negative " ++
      "values will be treated as 0 (evict immediately) by the system.") .int64),
    optional "value" (.described ("Value is the taint value the toleration matches to. If the operator is " ++
      "Exists, the value should be empty, otherwise just a regular string.") .text)])

end BrokerFleet.Schema
