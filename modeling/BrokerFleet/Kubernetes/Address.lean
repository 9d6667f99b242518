import BrokerFleet.Kubernetes.ApiError

/-!
Where the Kubernetes API keeps objects: under a path made of the group of their kind, their namespace, the plural of
their kind and their name.
-/

namespace BrokerFleet

open Kubernetes

inductive ObjectKind where
  | cluster
  | job
  | statefulSet
  | pod
  | secret
  | configMap
  | service
  deriving DecidableEq, Repr, Inhabited

def ObjectKind.word : ObjectKind → String
  | .cluster => "BrokerCluster"
  | .job => "Rebalance"
  | .statefulSet => "StatefulSet"
  | .pod => "Pod"
  | .secret => "Secret"
  | .configMap => "ConfigMap"
  | .service => "Service"

def ObjectKind.group : ObjectKind → String
  | .cluster | .job => "/apis/apps.broker.dev/v1alpha1"
  | .statefulSet => "/apis/apps/v1"
  | .pod | .secret | .configMap | .service => "/api/v1"

def ObjectKind.plural : ObjectKind → String
  | .cluster => "brokerclusters"
  | .job => "rebalances"
  | .statefulSet => "statefulsets"
  | .pod => "pods"
  | .secret => "secrets"
  | .configMap => "configmaps"
  | .service => "services"

namespace Kubernetes

structure Address where
  kind : ObjectKind
  ns : String
  name : Option String
  deriving DecidableEq, Repr, Inhabited

namespace Address

def path (a : Address) : String :=
  a.kind.group ++ "/namespaces/" ++ a.ns ++ "/" ++ a.kind.plural ++ (a.name.map ("/" ++ ·)).getD ""

/-- Why there is no request for what is at an address, if there is none. A query always follows the path. -/
def fault? (a : Address) : Option RequestFault :=
  if a.name == some "" then some .noName else (Net.Target.pathFault? (a.path ++ "?")).map .badPath

def endsStep (c : Char) : Bool :=
  c = '/' || c = '?' || c = '#'

/-- What a request reaches: a name goes as far as the step of the path, and there is nothing where a namespace does
not. -/
def reached? (a : Address) : Option Address :=
  if a.ns.any endsStep then none
  else some { a with name := a.name.map fun name => String.ofList (name.toList.takeWhile (!endsStep ·)) }

end Address

end Kubernetes

end BrokerFleet
