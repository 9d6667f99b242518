import BrokerFleet.Net.Target

/-!
The health probes of the operator: it is alive as long as it answers, and ready once its passes run.
-/

namespace BrokerFleet.Probe

structure Answer where
  status : Nat
  body : String
  deriving DecidableEq, Repr, Inhabited

structure Request where
  method : String
  path : String
  deriving DecidableEq, Repr, Inhabited

def isMethodChar (c : Char) : Bool :=
  Text.isAsciiAlphanumeric c || "!#$%&'*+-.^_`|~".toList.contains c

def Request.parse? (text : String) : Option Request := do
  let (method, target) ← Text.splitFirst? ' ' text.toList
  if method.isEmpty || !method.all isMethodChar then none
  let path ← Net.Target.path? (String.ofList target)
  some ⟨String.ofList method, path⟩

def told? (ready : Bool) (path : String) : Option Answer :=
  if path = "/healthz" then some ⟨200, "OK"⟩
  else if path = "/readyz" then some (if ready then ⟨200, "Ready"⟩ else ⟨503, "Starting"⟩)
  else none

/-- The answer to a request. `HEAD` brings no body, and only `GET` and `HEAD` are understood. -/
def answer (ready : Bool) (request : Request) : Answer :=
  match told? ready request.path with
  | none => ⟨404, ""⟩
  | some told =>
    if request.method = "GET" then told
    else if request.method = "HEAD" then { told with body := "" }
    else ⟨405, ""⟩

end BrokerFleet.Probe
