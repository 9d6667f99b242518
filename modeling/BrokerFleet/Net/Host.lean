import BrokerFleet.Net.Domain
import BrokerFleet.Net.SocketAddress
import BrokerFleet.Text.Percent
import BrokerFleet.Text.Split

/-!
Hosts as they stand in the normal form of an address: names in lower case and in ASCII, IPv4 addresses as four
numbers, IPv6 addresses in their shortest form.
-/

namespace BrokerFleet.Net.Host

open Text

/-! ### IPv4 addresses -/

def number? : List Char → Option Nat
  | [] => none
  | '0' :: 'x' :: cs | '0' :: 'X' :: cs => inBase? 16 cs
  | ['0'] => some 0
  | '0' :: cs => inBase? 8 cs
  | cs => inBase? 10 cs

def labels (cs : List Char) : List (List Char) :=
  match (splitAll '.' cs).reverse with
  | [] :: rest => rest.reverse
  | _ => splitAll '.' cs

def endsInNumber (cs : List Char) : Bool :=
  match (labels cs).getLast? with
  | some last => (!last.isEmpty && last.all isDigit) || (number? last).isSome
  | none => false

/-- The four numbers of an address; the last number that is written fills the places that are left. -/
def octets? (cs : List Char) : Option (List Nat) := do
  let numbers ← (labels cs).mapM number?
  let last ← numbers.getLast?
  let front := numbers.dropLast
  let room := 4 - front.length
  if 3 < front.length || front.any (255 < ·) || Nat.pow 256 room ≤ last then none
  else some (front ++ (List.range room).reverse.map fun i => last / Nat.pow 256 i % 256)

/-! ### Hosts -/

def bracketed? (cs : List Char) : Option String := do
  let (groups, rest) ← SocketAddress.ipv6? cs
  if rest = [']'] then some ("[" ++ SocketAddress.shortest groups ++ "]") else none

def normal? : List Char → Option String
  | '[' :: cs => bracketed? cs
  | cs => do
    let text ← Utf8.decode? (Percent.bytes cs)
    let name ← Domain.ascii? text.toList
    if name.isEmpty then none
    else if endsInNumber name then (octets? name).map SocketAddress.dotted
    else some (String.ofList name)

end BrokerFleet.Net.Host
