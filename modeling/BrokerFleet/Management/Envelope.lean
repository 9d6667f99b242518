import BrokerFleet.Json.Parser
import BrokerFleet.Json.Printer
import BrokerFleet.Management.Failure

/-!
Answers of the management API. A refusal is an object with a code other than success, whatever the
HTTP status; it counts before the status does.
-/

namespace BrokerFleet

structure Response where
  status : Nat
  body : List UInt8
  deriving DecidableEq, Repr, Inhabited

namespace Response

def isSuccess (r : Response) : Bool :=
  200 ≤ r.status && r.status < 300

def isBlankByte (b : UInt8) : Bool :=
  b == 0x20 || b == 0x09 || b == 0x0A || b == 0x0C || b == 0x0D

def document? (r : Response) : Option Json :=
  if r.body.all isBlankByte then none else Json.parseBytes? r.body

def rendered : Json → String
  | .string s => s
  | other => other.compact

def isSuccessCode : Json → Bool
  | .null => true
  | .int n => n == 0
  | .string s => s.isEmpty || s == "0" || Text.eqIgnoringCase s "success"
  | _ => false

def refusal? (document : Json) : Option (String × String) :=
  match document.field? "code" with
  | some code =>
    if isSuccessCode code then none
    else some (rendered code, ((document.field? "message").map rendered).getD "")
  | none => none

/-- The document of an answer to a request for `path`, or why there is none to be had. -/
def payload (path : String) (r : Response) : Except ManagementFailure (Option Json) :=
  match r.document?.bind refusal? with
  | some (code, text) => .error (.refused path code text)
  | none =>
    if r.isSuccess then .ok r.document?
    else .error (.httpStatus path r.status (Text.Utf8.decodeLossy r.body))

/-- Reads the document of an answer; no document reads as `null`. -/
def decode {α : Type} (path : String) (read? : Json → Option α) (document : Option Json) :
    Except ManagementFailure α :=
  match read? (document.getD .null) with
  | some value => .ok value
  | none => .error (.decoding path "not of the expected shape")

end Response

end BrokerFleet
