import BrokerFleet.Dialogue
import BrokerFleet.Management.Listener
import BrokerFleet.Management.Report

/-!
Talking to the management API of a cluster: with the credentials from the cluster's secret, to the
replica that an endpoint names.
-/

namespace BrokerFleet

open Kubernetes

structure ManagementClient where
  credentials : Credentials
  port : Nat
  deriving DecidableEq, Repr, Inhabited

namespace ManagementClient

def send (client : ManagementClient) (peer : Endpoint) (request : ManagementRequest) :
    Attempt ManagementFailure Response :=
  match Net.Target.pathFault? request.path with
  | some fault => Attempt.fail (.badPath request.path fault)
  | none => do
    let reply ← Attempt.call (.send peer client.port client.credentials request)
    Attempt.ofExcept .transport reply

def document (client : ManagementClient) (peer : Endpoint) (request : ManagementRequest) :
    Attempt ManagementFailure (Option Json) := do
  let response ← client.send peer request
  Attempt.ofExcept id (response.payload request.path)

def ask {α : Type} (client : ManagementClient) (peer : Endpoint) (request : ManagementRequest)
    (read? : Json → Option α) : Attempt ManagementFailure α := do
  let document ← client.document peer request
  Attempt.ofExcept id (Response.decode request.path read? document)

def order (client : ManagementClient) (peer : Endpoint) (request : ManagementRequest) :
    Attempt ManagementFailure Unit := do
  let _ ← client.document peer request
  return ()

def nodes (client : ManagementClient) (peer : Endpoint) : Attempt ManagementFailure (List ClusterNode) :=
  client.ask peer .nodes (Json.list? ClusterNode.ofReport?)

def listeners (client : ManagementClient) (peer : Endpoint) : Attempt ManagementFailure (List Listener) := do
  let reports : List NodeListeners ← client.ask peer .listeners ofJson?
  return Listener.common reports

def loadReport (client : ManagementClient) (peer : Endpoint) : Attempt ManagementFailure LoadReport :=
  client.ask peer .loadStatus LoadReport.ofReport?

/-- Whether a replica accepts new clients; any failure means that it does not. -/
def isAvailable {ε : Type} (client : ManagementClient) (peer : Endpoint) : Attempt ε Bool := do
  match ← (client.send peer .availability).outcome with
  | .ok response => return response.status == 200
  | .error _ => return false

end ManagementClient

namespace Cluster

def endpoint (c : Cluster) (pod : String) : Except ObjectFailure Endpoint :=
  match c.ns? with
  | some ns => .ok ⟨ns, pod, c.hostOf ns pod⟩
  | none => .error .noNamespace

def credentialsOf (c : Cluster) (secret : Secret) : Except AccessFailure Credentials :=
  match secret.entry? bootstrapKey with
  | none => .error (.noSecretKey c.secretName bootstrapKey)
  | some bytes =>
    match Text.Utf8.decode? bytes with
    | none => .error (.secretEncoding c.secretName bootstrapKey)
    | some text =>
      match Credentials.parse? text with
      | none => .error (.secretForm c.secretName bootstrapKey)
      | some credentials => .ok credentials

def placed (c : Cluster) : Except ObjectFailure String :=
  match c.ns? with
  | some ns => .ok ns
  | none => .error .noNamespace

def signIn (c : Cluster) : Attempt AccessFailure ManagementClient := do
  let ns ← Attempt.ofExcept AccessFailure.object c.placed
  let reply ← Attempt.call (.getSecret ns c.secretName)
  match ← Attempt.ofExcept AccessFailure.api (ApiError.orMissing reply) with
  | none => Attempt.fail (.noSecret c.secretName)
  | some secret =>
    let credentials ← Attempt.ofExcept id (c.credentialsOf secret)
    return ⟨credentials, c.dashboardPort⟩

end Cluster

end BrokerFleet
