import BrokerFleet.Json.Value

/-!
Reading JSON values as data. A record may be given as an object, read by name, or as a list of its
fields in order; unknown members are ignored, surplus items are not.
-/

namespace BrokerFleet

class FromJson (α : Type) where
  ofJson? : Json → Option α

export FromJson (ofJson?)

namespace Json

instance : FromJson Json := ⟨some⟩

instance : FromJson Bool where
  ofJson?
    | .bool b => some b
    | _ => none

instance : FromJson String where
  ofJson?
    | .string s => some s
    | _ => none

instance : FromJson Int where
  ofJson?
    | .int n => some n
    | _ => none

instance : FromJson Int32 where
  ofJson?
    | .int n => if Int32.minValue.toInt ≤ n ∧ n ≤ Int32.maxValue.toInt then some (.ofInt n) else none
    | _ => none

instance : FromJson Int64 where
  ofJson?
    | .int n => if Int64.minValue.toInt ≤ n ∧ n ≤ Int64.maxValue.toInt then some (.ofInt n) else none
    | _ => none

def natUpTo? (limit : Nat) : Json → Option Nat
  | .int n => if 0 ≤ n ∧ n ≤ limit then some n.toNat else none
  | _ => none

def list? {α : Type} (item? : Json → Option α) : Json → Option (List α)
  | .array items => items.mapM item?
  | _ => none

instance {α : Type} [FromJson α] : FromJson (List α) := ⟨list? ofJson?⟩

instance {α : Type} [FromJson α] : FromJson (Option α) where
  ofJson?
    | .null => some none
    | other => (ofJson? other).map some

def texts? : Json → Option (List (String × String))
  | .object members => members.mapM fun (name, value) => (ofJson? value).map (name, ·)
  | _ => none

def word? : Json → Option String
  | .string s => some s
  | .object [(name, .null)] => some name
  | _ => none

abbrev Fields := String → Option Json

def fields? (names : List String) : Json → Option Fields
  | .object members => some fun name => lookup name members
  | .array items =>
    if items.length ≤ names.length then some fun name => lookup name (names.zip items) else none
  | _ => none

namespace Fields

variable {α : Type} [FromJson α] (fields : Fields)

def required? (name : String) : Option α :=
  (fields name).bind ofJson?

def withDefault? (name : String) (default : α) : Option α :=
  match fields name with
  | some value => ofJson? value
  | none => some default

def optional? (name : String) : Option (Option α) :=
  fields.withDefault? name none

end Fields

end Json

class ToJson (α : Type) where
  toJson : α → Json

export ToJson (toJson)

namespace Json

instance : ToJson Json := ⟨id⟩
instance : ToJson Bool := ⟨.bool⟩
instance : ToJson String := ⟨.string⟩
instance : ToJson Nat := ⟨fun n => .int n⟩
instance : ToJson Int := ⟨.int⟩
instance : ToJson Int32 := ⟨fun n => .int n.toInt⟩
instance : ToJson Int64 := ⟨fun n => .int n.toInt⟩

instance {α : Type} [ToJson α] : ToJson (List α) := ⟨fun items => .array (items.map toJson)⟩

instance {α : Type} [ToJson α] : ToJson (Option α) where
  toJson
    | some a => toJson a
    | none => .null

end Json

end BrokerFleet
