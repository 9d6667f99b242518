import BrokerFleet.Text.Numeral
import BrokerFleet.Text.Split

/-!
The targets of requests: a path with a query, an address with a scheme and an authority, an authority alone, or an
asterisk. What follows `#` does not count.
-/

namespace BrokerFleet.Net

inductive PathFault where
  | tooLong
  | badCharacter
  deriving DecidableEq, Repr, Inhabited

def PathFault.message : PathFault → String
  | .tooLong => "uri too long"
  | .badCharacter => "invalid uri character"

namespace Target

def greatestSize : Nat := 65534

def isAscii (c : Char) : Bool :=
  c.toNat < 0x80

def isPathChar (c : Char) : Bool :=
  if isAscii c then 0x20 < c.toNat && c.toNat < 0x7F && !("#<>?`".toList.contains c) else true

def isQueryChar (c : Char) : Bool :=
  if isAscii c then 0x20 < c.toNat && c.toNat < 0x7F && !("\"#<>".toList.contains c) else true

def isPlace (cs : List Char) : Bool :=
  let sent := Text.beforeFirst '#' cs
  (Text.beforeFirst '?' sent).all isPathChar && (sent.dropWhile (· != '?')).all isQueryChar

def pathFault? (path : String) : Option PathFault :=
  if greatestSize < path.utf8ByteSize then some .tooLong
  else if isPlace path.toList then none
  else some .badCharacter

/-! ### Authorities -/

def isAuthorityChar (c : Char) : Bool :=
  Text.isAsciiAlphanumeric c || "!$&'()*+,-.:;=@[]_~%".toList.contains c

/-- What has been seen of an authority. User information ends at `@` and an address at `]`; colons and `%` before them
do not count. -/
structure Seen where
  colons : Nat
  opened : Bool
  closed : Bool
  percent : Bool

def Seen.step (s : Seen) (c : Char) : Option Seen :=
  if !isAuthorityChar c then none
  else if c = ':' then if 8 ≤ s.colons then none else some { s with colons := s.colons + 1 }
  else if c = '[' then if s.percent || s.opened then none else some { s with opened := true }
  else if c = ']' then
    if !s.opened || s.closed then none
    else some { s with closed := true, colons := 0, percent := false }
  else if c = '@' then some { s with colons := 0, percent := false }
  else if c = '%' then some { s with percent := true }
  else some s

def isAuthority (cs : List Char) : Bool :=
  match cs.foldlM Seen.step ⟨0, false, false, false⟩ with
  | some seen =>
    seen.opened == seen.closed && seen.colons ≤ 1 && !seen.percent && cs.getLast? != some '@'
  | none => false

/-! ### Addresses -/

def isSchemeChar (c : Char) : Bool :=
  Text.isAsciiAlphanumeric c || "+-.~".toList.contains c

def longestScheme : Nat := 64

def splitScheme? (cs : List Char) : Option (List Char × List Char) :=
  match cs.dropWhile isSchemeChar with
  | ':' :: '/' :: '/' :: rest => some (cs.takeWhile isSchemeChar, rest)
  | _ => none

def authorityOf (cs : List Char) : List Char :=
  cs.takeWhile fun c => !("/?#".toList.contains c)

def addressPath? (cs : List Char) : Option (List Char) :=
  let authority := authorityOf cs
  let place := cs.drop authority.length
  if authority.isEmpty || !isAuthority authority || !isPlace place then none
  else
    let path := Text.beforeFirst '?' (Text.beforeFirst '#' place)
    some (if path.isEmpty then ['/'] else path)

/-- The path of a target; an authority alone has none, which reads as the empty path. -/
def path? (target : String) : Option String :=
  if greatestSize < target.utf8ByteSize then none
  else match target.toList with
    | [] => none
    | ['*'] => some "*"
    | '/' :: rest =>
      if isPlace rest then some (String.ofList ('/' :: Text.beforeFirst '?' (Text.beforeFirst '#' rest))) else none
    | cs =>
      match splitScheme? cs with
      | some (scheme, rest) =>
        if longestScheme < scheme.length then none else (addressPath? rest).map String.ofList
      | none => if isAuthority cs then some "" else none

end Target

end BrokerFleet.Net
