import BrokerFleet.Decimal.Binary64

/-!
JSON values. Whole numbers and binary fractions are told apart, and an object keeps the order in
which its members were written; `sorted` puts them into the order of their names.
-/

namespace BrokerFleet

open Decimal

inductive Json where
  | null
  | bool (value : Bool)
  | int (value : Int)
  | real (value : Binary64)
  | string (value : String)
  | array (items : List Json)
  | object (members : List (String × Json))
  deriving Repr, Inhabited

abbrev Members := List (String × Json)

namespace Json

mutual

def same : Json → Json → Bool
  | .null, .null => true
  | .bool a, .bool b => a == b
  | .int a, .int b => a == b
  | .real a, .real b => a == b
  | .string a, .string b => a == b
  | .array a, .array b => sameItems a b
  | .object a, .object b => sameMembers a b
  | _, _ => false

def sameItems : List Json → List Json → Bool
  | [], [] => true
  | a :: as, b :: bs => same a b && sameItems as bs
  | _, _ => false

def sameMembers : List (String × Json) → List (String × Json) → Bool
  | [], [] => true
  | (j, a) :: as, (k, b) :: bs => j == k && same a b && sameMembers as bs
  | _, _ => false

end

instance : BEq Json := ⟨same⟩

def lookup (name : String) (members : Members) : Option Json :=
  (members.find? (·.1 == name)).map (·.2)

def field? (name : String) : Json → Option Json
  | .object members => lookup name members
  | _ => none

/-- Sets a member: in place if there is one of that name, else before the first name that is
greater. -/
def insert (name : String) (value : Json) : Members → Members
  | [] => [(name, value)]
  | (k, v) :: rest =>
    if k == name then (k, value) :: rest
    else if name < k then (name, value) :: (k, v) :: rest
    else (k, v) :: insert name value rest

def erase (name : String) (members : Members) : Members :=
  members.filter (·.1 != name)

/-- An object of the members that are present, in the order given. -/
def record (members : List (String × Option Json)) : Json :=
  .object (members.filterMap fun (name, value) => value.map (name, ·))

def strings (items : List String) : Json :=
  .array (items.map .string)

def texts (members : List (String × String)) : Json :=
  .object (members.map fun (name, value) => (name, .string value))

def unlessEmpty (items : List Json) : Option Json :=
  if items.isEmpty then none else some (.array items)

def unlessBlank (text : String) : Option Json :=
  if text.isEmpty then none else some (.string text)

mutual

/-- The same value with the members of every object in the order of their names; of two members
of one name the later counts. -/
def sorted : Json → Json
  | .array items => .array (sortedItems items)
  | .object members => .object (sortedMembers members [])
  | other => other

def sortedItems : List Json → List Json
  | [] => []
  | item :: rest => sorted item :: sortedItems rest

def sortedMembers : List (String × Json) → Members → Members
  | [], done => done
  | (name, value) :: rest, done => sortedMembers rest (insert name (sorted value) done)

end

end Json

end BrokerFleet
