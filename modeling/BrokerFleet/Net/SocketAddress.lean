import BrokerFleet.Text.Numeral

/-!
Addresses to listen at: an IPv4 or IPv6 address and a port. IPv6 addresses stand in square brackets, may leave out
one run of zeros, may end in an IPv4 address and may name a scope.
-/

namespace BrokerFleet.Net

inductive SocketAddress where
  | v4 (octets : List Nat) (port : Nat)
  | v6 (groups : List Nat) (scope port : Nat)
  deriving DecidableEq, Repr, Inhabited

namespace SocketAddress

def mark? (c : Char) : List Char → Option (List Char)
  | d :: rest => if d = c then some rest else none
  | [] => none

def decimal? (limit : Nat) (cs : List Char) : Option (Nat × List Char) := do
  let n ← Text.natUpTo? limit (cs.takeWhile Text.isDigit)
  some (n, cs.dropWhile Text.isDigit)

def octet? (cs : List Char) : Option (Nat × List Char) :=
  match cs.takeWhile Text.isDigit with
  | ['0'] => some (0, cs.drop 1)
  | '0' :: _ => none
  | digits =>
    if digits.length ≤ 3 then (Text.natUpTo? 255 digits).map (·, cs.dropWhile Text.isDigit) else none

def ipv4? (cs : List Char) : Option (List Nat × List Char) := do
  let (a, rest) ← octet? cs
  let (b, rest) ← octet? (← mark? '.' rest)
  let (c, rest) ← octet? (← mark? '.' rest)
  let (d, rest) ← octet? (← mark? '.' rest)
  some ([a, b, c, d], rest)

def group? (cs : List Char) : Option (Nat × List Char) :=
  let digits := cs.takeWhile fun c => (Text.hexValue? c).isSome
  if digits.isEmpty || 4 < digits.length then none
  else some (digits.foldl (fun n c => 16 * n + (Text.hexValue? c).getD 0) 0, cs.drop digits.length)

def paired : List Nat → List Nat
  | [a, b, c, d] => [256 * a + b, 256 * c + d]
  | _ => []

def groups : (room : Nat) → (first : Bool) → List Char → List Nat × Bool × List Char
  | 0, _, cs => ([], false, cs)
  | room + 1, first, cs =>
    let next := if first then some cs else mark? ':' cs
    match if room = 0 then none else next.bind ipv4? with
    | some (octets, rest) => (paired octets, true, rest)
    | none =>
      match next.bind group? with
      | some (n, rest) =>
        let (others, mixed, rest) := groups room false rest
        (n :: others, mixed, rest)
      | none => ([], false, cs)

def ipv6? (cs : List Char) : Option (List Nat × List Char) :=
  let (head, mixed, rest) := groups 8 true cs
  if head.length = 8 then some (head, rest)
  else if mixed then none
  else do
    let rest ← mark? ':' (← mark? ':' rest)
    let (tail, _, rest) := groups (7 - head.length) true rest
    some (head ++ List.replicate (8 - head.length - tail.length) 0 ++ tail, rest)

def port? (cs : List Char) : Option (Nat × List Char) := do
  decimal? 65535 (← mark? ':' cs)

def scope? : List Char → Option (Nat × List Char)
  | '%' :: rest => decimal? (UInt32.size - 1) rest
  | rest => some (0, rest)

def readV4? (cs : List Char) : Option (SocketAddress × List Char) := do
  let (octets, rest) ← ipv4? cs
  let (port, rest) ← port? rest
  some (.v4 octets port, rest)

def readV6? (cs : List Char) : Option (SocketAddress × List Char) := do
  let (groups, rest) ← ipv6? (← mark? '[' cs)
  let (scope, rest) ← scope? rest
  let (port, rest) ← port? (← mark? ']' rest)
  some (.v6 groups scope port, rest)

def parse? (s : String) : Option SocketAddress :=
  match readV4? s.toList <|> readV6? s.toList with
  | some (address, []) => some address
  | _ => none

def dotted (octets : List Nat) : String :=
  ".".intercalate (octets.map toString)

def colons (groups : List Nat) : String :=
  ":".intercalate (groups.map fun n => String.ofList (Text.hex 1 n))

def zeros (groups : List Nat) : Nat :=
  (groups.takeWhile (· = 0)).length

/-- Where the first of the longest runs of zeros begins, and how long it is. -/
def longestRun : (place : Nat) → List Nat → Nat × Nat
  | place, [] => (place, 0)
  | place, n :: rest =>
    let (start, length) := longestRun (place + 1) rest
    if length ≤ zeros (n :: rest) then (place, zeros (n :: rest)) else (start, length)

/-- The shortest form: the longest run of several zeros is left out. -/
def shortest (groups : List Nat) : String :=
  let (start, length) := longestRun 0 groups
  if 1 < length then colons (groups.take start) ++ "::" ++ colons (groups.drop (start + length))
  else colons groups

def renderV6 (groups : List Nat) : String :=
  match groups with
  | [0, 0, 0, 0, 0, 0xFFFF, a, b] => "::ffff:" ++ dotted [a / 256, a % 256, b / 256, b % 256]
  | _ => shortest groups

def render : SocketAddress → String
  | .v4 octets port => dotted octets ++ ":" ++ toString port
  | .v6 groups scope port =>
    let zone := if scope = 0 then "" else "%" ++ toString scope
    "[" ++ renderV6 groups ++ zone ++ "]:" ++ toString port

end SocketAddress

end BrokerFleet.Net
