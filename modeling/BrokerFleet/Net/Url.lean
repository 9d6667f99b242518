import BrokerFleet.Net.Host

/-!
Web addresses, as they are put together and in their normal form: user information and the usual port left out,
steps to the same or the upper level taken unless they lead out of a drive, and bytes that may not stand by
themselves escaped.
-/

namespace BrokerFleet.Net.Url

open Text

def scheme : String := "http://"

def target (path : String) : String :=
  String.ofList (beforeFirst '#' path.toList)

def ofParts (host : String) (port : Nat) (path : String) : String :=
  scheme ++ host ++ ":" ++ toString port ++ target path

def isPrintable (b : UInt8) : Bool :=
  0x20 < b.toNat && b.toNat < 0x7F

def isPlainInPath (b : UInt8) : Bool :=
  isPrintable b && !([0x22, 0x23, 0x3C, 0x3E, 0x3F, 0x60, 0x7B, 0x7D].contains b.toNat)

def isPlainInQuery (b : UInt8) : Bool :=
  isPrintable b && !([0x22, 0x23, 0x27, 0x3C, 0x3E].contains b.toNat)

def isPlainInFragment (b : UInt8) : Bool :=
  isPrintable b && !([0x22, 0x3C, 0x3E, 0x60].contains b.toNat)

/-! ### Paths -/

def undotted (step : List Char) : String :=
  (asciiLower (String.ofList step)).replace "%2e" "."

/-- A letter and a colon or a bar name a drive, out of which no step leads. -/
def isDrive : List Char → Bool
  | [letter, mark] => letter.isAlpha && (mark = ':' || mark = '|')
  | _ => false

/-- The steps that stay when the upper level is taken, in reverse. -/
def upper : List (List Char) → List (List Char)
  | [] => []
  | step :: rest => if isDrive step then step :: rest else rest

def walk (taken : List (List Char)) : List (List Char) → List (List Char)
  | [] => taken.reverse
  | step :: rest =>
    let last := if rest.isEmpty then [[]] else []
    if undotted step = ".." then walk (last ++ upper taken) rest
    else if undotted step = "." then walk (last ++ taken) rest
    else walk (Percent.encode isPlainInPath step :: taken) rest

def normalPath (path : List Char) : List Char :=
  let steps := splitAll '/' (path.map fun c => if c = '\\' then '/' else c)
  let taken := walk [] (steps.drop 1)
  if taken.isEmpty then ['/'] else taken.flatMap ('/' :: ·)

/-! ### Addresses -/

/-- The port after a colon. The usual one, and none at all, are left out. -/
def port? : List Char → Option String
  | [] | [':'] => some ""
  | ':' :: digits => do
    let port ← (unsigned? digits).filter (· ≤ 65535)
    some (if port = 80 then "" else ":" ++ toString port)
  | _ => none

def hostAndPort (cs : List Char) : List Char × List Char :=
  let (bracketed, rest) := match cs with
    | '[' :: _ => (cs.takeWhile (· != ']'), cs.dropWhile (· != ']'))
    | _ => ([], cs)
  (bracketed ++ beforeFirst ':' rest, rest.dropWhile (· != ':'))

/-- Breaks of lines and tabs, which do not count anywhere in an address. -/
def isBreak (c : Char) : Bool :=
  c.toNat = 0x09 || c.toNat = 0x0A || c.toNat = 0x0D

def isSlash (c : Char) : Bool :=
  c = '/' || c = '\\'

def normal? (host : String) (port : Nat) (path : String) : Option String := do
  let cs := (host ++ ":" ++ toString port ++ target path).toList.filter fun c => !isBreak c
  let cs := cs.dropWhile isSlash
  let authority := cs.takeWhile fun c => !(isSlash c || c = '?' || c = '#')
  let (named, place) := hostAndPort (afterLast '@' authority)
  let known ← Host.normal? named
  let port ← port? place
  let rest := cs.drop authority.length
  let sent := beforeFirst '#' rest
  let query := match splitFirst? '?' sent with
    | some (_, query) => '?' :: Percent.encode isPlainInQuery query
    | none => []
  let fragment := match splitFirst? '#' rest with
    | some (_, fragment) => '#' :: Percent.encode isPlainInFragment fragment
    | none => []
  some (scheme ++ known ++ port ++ String.ofList (normalPath (beforeFirst '?' sent) ++ query ++ fragment))

end BrokerFleet.Net.Url
