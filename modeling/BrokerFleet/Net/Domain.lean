import BrokerFleet.Net.Domain.Direction
import BrokerFleet.Net.Domain.Joiner
import BrokerFleet.Net.Domain.Mapping
import BrokerFleet.Text.Punycode
import BrokerFleet.Text.Split

/-!
Domain names. A name is brought to its normal form and cut into labels; each label has to be fit, and one that is not
ASCII is written in Punycode after a mark.
-/

namespace BrokerFleet.Net.Domain

open Text

def codeMark : List Char := "xn--".toList

def longestLabel : Nat := 1000

def longestCode : Nat := 2000

/-- Characters that no name holds: blanks, control characters and those that set off the parts of an address. -/
def isForbidden (c : Char) : Bool :=
  c.toNat ≤ 0x20 || c.toNat = 0x7F || "#%/:<>?@[\\]^|".toList.contains c

/-- Whether a label can stand in a name: it does not begin with a mark and joiners stand in their places. -/
def isFit (label : List Char) : Bool :=
  label.all Punycode.isAscii ||
    (label.length ≤ longestLabel && !(label.head?.map isMark).getD false && Joiner.allStand [] label)

/-- The text of a label in Punycode, which is not ASCII, is in normal form and has no mark itself. -/
def ofCode? (code : List Char) : Option (List Char) := do
  let text ← Punycode.decode? code
  if longestCode < code.length || code.getLast? = some '-' || text.all Punycode.isAscii ||
      codeMark.isPrefixOf text || normal? text != some text then none
  else some text

def label? (cs : List Char) : Option (List Char) := do
  let text ← if codeMark.isPrefixOf cs then ofCode? (cs.drop codeMark.length) else some cs
  if isFit text then some text else none

def written (label : List Char) : List Char :=
  if label.all Punycode.isAscii then label else codeMark ++ Punycode.encode label

def labels? (cs : List Char) : Option (List (List Char)) := do
  let name ← normal? cs
  if name.any isForbidden then none
  else
    let labels ← (splitAll '.' name).mapM label?
    if labels.any Direction.turns && !labels.all Direction.isUniform then none else some labels

def ascii? (cs : List Char) : Option (List Char) :=
  (labels? cs).map fun labels => ['.'].intercalate (labels.map written)

end BrokerFleet.Net.Domain
