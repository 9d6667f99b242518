import BrokerFleet.Decimal.Shortest
import BrokerFleet.Json.Reader
import BrokerFleet.Text.Base64
import BrokerFleet.Time.Stamp

/-!
The shapes of Kubernetes objects. `Shape.normalize?` reads a value against a shape: unknown members
are dropped, absent optional members stay absent, and members that are always there take their
default. A member given as `null` counts as absent, and in a map of bytes it stands for no bytes.
-/

namespace BrokerFleet.Kubernetes

open Json

mutual

inductive Shape where
  | any
  | bool
  | int32
  | int64
  | string
  | time
  | bytes
  | intOrString
  | quantity
  | constant (value : String)
  | list (item : Shape)
  | map (value : Shape)
  | object (members : MemberShapes)

inductive MemberShapes where
  | nil
  | cons (name : String) (always : Bool) (shape : Shape) (rest : MemberShapes)

end

instance : Inhabited Shape := ⟨.any⟩
instance : Inhabited MemberShapes := ⟨.nil⟩

mutual

/-- What stands for a member that is always written but was not given. -/
def Shape.default : Shape → Json
  | .any => .null
  | .bool => .bool false
  | .int32 | .int64 | .intOrString => .int 0
  | .string | .bytes | .quantity => .string ""
  | .time => .string (Stamp.format ⟨0, 0⟩)
  | .constant value => .string value
  | .list _ => .array []
  | .map _ => .object []
  | .object members => .object members.defaults

def MemberShapes.defaults : MemberShapes → Members
  | .nil => []
  | .cons name always shape rest =>
    if always then insert name shape.default rest.defaults else rest.defaults

end

def Shape.isConstant : Shape → Bool
  | .constant _ => true
  | _ => false

def kept (α : Type) [FromJson α] (value : Json) : Option Json :=
  (ofJson? value : Option α).map fun _ => value

mutual

def Shape.normalize? : Shape → Json → Option Json
  | .any, value => some value
  | .bool, value => kept Bool value
  | .int32, value => kept Int32 value
  | .int64, value => kept Int64 value
  | .string, value => kept String value
  | .time, .string s => (Stamp.parse? s).map fun t => .string (Stamp.format t)
  | .time, _ => none
  | .bytes, .string s => (Text.Base64.decode? s).map fun _ => .string s
  | .bytes, .null => some (.string "")
  | .bytes, _ => none
  | .intOrString, .string s => some (.string s)
  | .intOrString, value => kept Int32 value
  | .quantity, .string s => some (.string s)
  | .quantity, .int n => some (.string (toString n))
  | .quantity, .real x => some (.string x.positional)
  | .quantity, _ => none
  | .constant word, .string s => if s = word then some (.string s) else none
  | .constant _, _ => none
  | .list item, .array items => (items.mapM item.normalize?).map .array
  | .list _, _ => none
  | .map shape, .object members =>
    (members.mapM fun member : String × Json =>
      (shape.normalize? member.2).map (member.1, ·)).map .object
  | .map _, _ => none
  | .object shapes, .object members => (shapes.normalize? members).map .object
  | .object _, _ => none

def MemberShapes.normalize? : MemberShapes → Members → Option Members
  | .nil, _ => some []
  | .cons name always shape rest, members => do
    let others ← rest.normalize? members
    match lookup name members with
    | none => some (if always then insert name shape.default others else others)
    | some .null =>
      if shape.isConstant then none
      else some (if always then insert name shape.default others else others)
    | some value => some (insert name (← shape.normalize? value) others)

end

namespace Shape

def optional (members : List (String × Shape)) (rest : MemberShapes) : MemberShapes :=
  members.foldr (fun (name, shape) rest => .cons name false shape rest) rest

def always (members : List (String × Shape)) (rest : MemberShapes) : MemberShapes :=
  members.foldr (fun (name, shape) rest => .cons name true shape rest) rest

/-- An object with some members that are always written and some that are not. -/
def objectOf (fixed free : List (String × Shape)) : Shape :=
  .object (always fixed (optional free .nil))

def each (shape : Shape) (names : List String) : List (String × Shape) :=
  names.map (·, shape)

def textList : Shape := .list .string

def textMap : Shape := .map .string

def quantities : Shape := .map .quantity

end Shape

end BrokerFleet.Kubernetes
