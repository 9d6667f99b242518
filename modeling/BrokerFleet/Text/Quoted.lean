import BrokerFleet.Text.Numeral
import BrokerFleet.Text.Printable

/-!
Text in quotation marks, for people to read: quotation marks, backslashes and what cannot be shown are
escaped, the latter by number.
-/

namespace BrokerFleet.Text

def shown (c : Char) : List Char :=
  let n := c.toNat
  if n = 0 then ['\\', '0']
  else if n = 0x09 then ['\\', 't']
  else if n = 0x0A then ['\\', 'n']
  else if n = 0x0D then ['\\', 'r']
  else if n = 0x22 ∨ n = 0x5C then ['\\', c]
  else if isPrintable c then [c]
  else '\\' :: 'u' :: Char.ofNat 0x7B :: hex 1 n ++ [Char.ofNat 0x7D]

def quoted (s : String) : String :=
  let mark := Char.ofNat 0x22
  String.ofList (mark :: s.toList.flatMap shown ++ [mark])

end BrokerFleet.Text
