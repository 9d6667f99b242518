import BrokerFleet.Json.Value
import BrokerFleet.Text.Numeral

/-!
JSON pointers: `/` starts each step, `~1` stands for `/` and `~0` for `~`. A step is the name of
a member or the index of an item, written without sign or leading zeros.
-/

namespace BrokerFleet.Json

def unescapeStep : List Char → List Char
  | '~' :: '1' :: rest => '/' :: unescapeStep rest
  | '~' :: '0' :: rest => '~' :: unescapeStep rest
  | c :: rest => c :: unescapeStep rest
  | [] => []

def pointerSteps? (pointer : String) : Option (List String) :=
  match pointer.toList with
  | [] => some []
  | '/' :: rest => some ((Text.splitAll '/' rest).map fun step => String.ofList (unescapeStep step))
  | _ => none

def index? (step : String) : Option Nat :=
  match step.toList with
  | ['0'] => some 0
  | '0' :: _ => none
  | cs => Text.unsigned? cs

def child? (value : Json) (step : String) : Option Json :=
  match value with
  | .object members => lookup step members
  | .array items => (index? step).bind fun i => items[i]?
  | _ => none

def at? (value : Json) (pointer : String) : Option Json := do
  (← pointerSteps? pointer).foldlM child? value

end BrokerFleet.Json
