import BrokerFleet.Kubernetes.ApiError
import BrokerFleet.Net.Target
import BrokerFleet.Text.Split
import BrokerFleet.Time.Span

/-!
Failures of the broker's management API. A request may not arrive at all, the answer may carry an
HTTP status of failure, the broker may refuse in the document it sends, and a document may have
the wrong shape.
-/

namespace BrokerFleet

open Kubernetes

inductive TransportFailure where
  | client (cause : String)
  | request (url cause : String)
  | tunnel (pod : String) (cause : ApiError)
  | noStream (pod : String) (port : Nat)
  | exchange (pod cause : String)
  | timeout (path : String) (after : Span)
  deriving DecidableEq, Repr, Inhabited

def TransportFailure.message : TransportFailure → String
  | .client cause => "building HTTP client failed: " ++ cause
  | .request url cause => "request to " ++ url ++ " failed: " ++ cause
  | .tunnel pod cause => "opening tunnel to pod " ++ pod ++ " failed: " ++ cause.message
  | .noStream pod port => "tunnel to pod " ++ pod ++ " has no stream for port " ++ toString port
  | .exchange pod cause => "HTTP exchange over tunnel to pod " ++ pod ++ " failed: " ++ cause
  | .timeout path after => "request to " ++ path ++ " timed out after " ++ after.render

inductive ManagementFailure where
  | transport (cause : TransportFailure)
  | badPath (path : String) (fault : Net.PathFault)
  | httpStatus (path : String) (status : Nat) (body : String)
  | refused (path code text : String)
  | decoding (path cause : String)
  deriving DecidableEq, Repr, Inhabited

namespace ManagementFailure

def message : ManagementFailure → String
  | .transport cause => cause.message
  | .badPath path fault => "building request for " ++ path ++ " failed: " ++ fault.message
  | .httpStatus path status body => path ++ " returned HTTP " ++ toString status ++ ": " ++ body
  | .refused path code text => path ++ " returned code " ++ code ++ ": " ++ text
  | .decoding path cause => "decoding response of " ++ path ++ " failed: " ++ cause

def evenLoad : String := "nothing_to_balance"

/-- The broker refuses to rebalance because the load is even already. -/
def isNothingToBalance : ManagementFailure → Bool
  | .refused _ code text =>
    Text.eqIgnoringCase code evenLoad ||
      Text.occurs evenLoad.toList (text.toList.map Char.toLower)
  | _ => false

end ManagementFailure

end BrokerFleet
