import BrokerFleet.Net.Target

/-!
Failures of the Kubernetes API: it answers with an HTTP code, or the request cannot even be made.
-/

namespace BrokerFleet.Kubernetes

inductive RequestFault where
  | noName
  | badPath (fault : Net.PathFault)
  deriving DecidableEq, Repr, Inhabited

def RequestFault.message : RequestFault → String
  | .noName => "failed to validate request: A non-empty name is required"
  | .badPath fault => "failed to build request: " ++ fault.message

inductive ApiError where
  | answered (code : Nat)
  | unsent (fault : RequestFault)
  deriving DecidableEq, Repr, Inhabited

namespace ApiError

def message : ApiError → String
  | .answered code => "ApiError(" ++ toString code ++ ")"
  | .unsent fault => "Failed to build request: " ++ fault.message

def notFound : ApiError := .answered 404

def conflict : ApiError := .answered 409

def unprocessable : ApiError := .answered 422

def isNotFound (e : ApiError) : Bool := e == notFound

def isConflict (e : ApiError) : Bool := e == conflict

end ApiError

end BrokerFleet.Kubernetes
