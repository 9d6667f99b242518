import BrokerFleet.Management.Envelope
import BrokerFleet.Management.Request
import BrokerFleet.Net.Url

/-!
A network with scripted brokers. A request reaches a broker only if the name of its host is known; then the
route for the address answers, or else the one for the path.
-/

namespace BrokerFleet.Rehearsal

structure Route where
  response : Response
  drops : Bool
  deriving DecidableEq, Repr, Inhabited

structure Network where
  hosts : List String
  routes : List (String × Route)
  deriving Repr, Inhabited

namespace Network

def isolated : Network := ⟨[], []⟩

def setRoute (name : String) (route : Option Route) (network : Network) : Network :=
  let others := network.routes.filter (·.1 != name)
  { network with routes := others ++ (route.map (name, ·)).toList }

def route? (name : String) (network : Network) : Option Route :=
  (network.routes.find? (·.1 == name)).map (·.2)

def addressed (peer : Endpoint) (port : Nat) (request : ManagementRequest) : String :=
  request.method ++ " " ++ peer.host ++ ":" ++ toString port ++ " " ++ Net.Url.target request.path

def noRoute : Route where
  response := ⟨404, Text.Utf8.encode "\x7b\"code\":\"NOT_FOUND\",\"message\":\"no route\"\x7d"⟩
  drops := false

def lostCause (host : String) (port : Nat) (path : String) : String :=
  match Net.Url.normal? host port path with
  | none => "builder error"
  | some address =>
    let kind := if (Net.Target.path? address).isSome then "error sending request" else "builder error"
    kind ++ " for url (" ++ address ++ ")"

def lost (peer : Endpoint) (port : Nat) (request : ManagementRequest) : TransportFailure :=
  .request (Net.Url.ofParts peer.host port request.path) (lostCause peer.host port request.path)

def isKnown (peer : Endpoint) (network : Network) : Bool :=
  network.hosts.contains peer.host

def answer (peer : Endpoint) (port : Nat) (request : ManagementRequest) (network : Network) :
    Except TransportFailure Response :=
  if network.isKnown peer then
    let byPath := request.method ++ " " ++ Net.Url.target request.path
    let route := (network.route? (addressed peer port request) <|> network.route? byPath).getD noRoute
    if route.drops then .error (lost peer port request) else .ok route.response
  else .error (lost peer port request)

end Network

end BrokerFleet.Rehearsal
