import BrokerFleet.Decimal.Shortest
import BrokerFleet.Json.Value
import BrokerFleet.Text.Numeral

/-!
Compact JSON text: no blanks, members in the order of the value, and only quotation marks,
backslashes and control characters below U+0020 escaped.
-/

namespace BrokerFleet.Json

def numberLayout : Decimal.Layout := ⟨-5, 16⟩

def escaped (c : Char) : List Char :=
  let n := c.toNat
  if n = 0x22 then ['\\', c]
  else if n = 0x5C then ['\\', '\\']
  else if n = 0x08 then ['\\', 'b']
  else if n = 0x09 then ['\\', 't']
  else if n = 0x0A then ['\\', 'n']
  else if n = 0x0C then ['\\', 'f']
  else if n = 0x0D then ['\\', 'r']
  else if n < 0x20 then '\\' :: 'u' :: Text.hex 4 n
  else [c]

def quotationMark : Char := Char.ofNat 0x22

def quoted (s : String) : List Char :=
  quotationMark :: (s.toList.flatMap escaped ++ [quotationMark])

mutual

def textOnto : Json → List Char → List Char
  | .null, rest => 'n' :: 'u' :: 'l' :: 'l' :: rest
  | .bool true, rest => 't' :: 'r' :: 'u' :: 'e' :: rest
  | .bool false, rest => 'f' :: 'a' :: 'l' :: 's' :: 'e' :: rest
  | .int n, rest => (toString n).toList ++ rest
  | .real x, rest => (numberLayout.render x).toList ++ rest
  | .string s, rest => quoted s ++ rest
  | .array items, rest => '[' :: itemsOnto true items (']' :: rest)
  | .object members, rest => Char.ofNat 0x7B :: membersOnto true members (Char.ofNat 0x7D :: rest)

def itemsOnto (first : Bool) : List Json → List Char → List Char
  | [], rest => rest
  | item :: items, rest =>
    let text := textOnto item (itemsOnto false items rest)
    if first then text else ',' :: text

def membersOnto (first : Bool) : List (String × Json) → List Char → List Char
  | [], rest => rest
  | (name, value) :: members, rest =>
    let text := quoted name ++ ':' :: textOnto value (membersOnto false members rest)
    if first then text else ',' :: text

end

def compact (value : Json) : String :=
  String.ofList (textOnto value [])

end BrokerFleet.Json
