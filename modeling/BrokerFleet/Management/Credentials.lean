import BrokerFleet.Text.Base64
import BrokerFleet.Text.Quoted
import BrokerFleet.Text.Split
import BrokerFleet.Text.Utf8

/-!
The credentials of the management API: a user and a secret, written with a colon between them.
-/

namespace BrokerFleet

structure Credentials where
  user : String
  secret : String
  deriving DecidableEq, Repr, Inhabited

namespace Credentials

/-- Reads `user:secret`, blanks around it left out. Neither half may be empty. -/
def parse? (text : String) : Option Credentials := do
  let (user, secret) ← Text.splitFirst? ':' (Text.trimBlanks text.toList)
  if user.isEmpty || secret.isEmpty then none
  else some ⟨String.ofList user, String.ofList secret⟩

def authorization (c : Credentials) : String :=
  "Basic " ++ Text.Base64.encode (Text.Utf8.encode (c.user ++ ":" ++ c.secret))

def redacted (c : Credentials) : String :=
  "Credentials \x7b username: " ++ Text.quoted c.user ++ ", password: \"<redacted>\" \x7d"

end Credentials

end BrokerFleet
