import BrokerFleet.Rehearsal.World

/-!
Scripts of rehearsals: how objects, routes and faults are written down, and how what was done is shown.
-/

namespace BrokerFleet.Rehearsal

open Kubernetes

namespace Route

def status? (value : Json) : Option Nat :=
  (Json.natUpTo? 999 value).filter (100 ≤ ·)

def bodyOf : Option Json → String
  | none => ""
  | some (.string s) => s
  | some value => value.sorted.compact

instance : FromJson Route where
  ofJson? value := do
    let status ← match value.field? "status" with
      | none | some .null => some 200
      | some given => status? given
    let drops : Option Bool ← ofJson? ((value.field? "drop").getD .null)
    some ⟨⟨status, Text.Utf8.encode (bodyOf (value.field? "body"))⟩, drops.getD false⟩

def changes? : Json → Option (List (String × Option Route))
  | .object members => members.mapM fun (name, value) => (ofJson? value).map (name, ·)
  | _ => none

end Route

def Network.change (changes : List (String × Option Route)) (network : Network) : Network :=
  changes.foldl (fun network (name, route) => network.setRoute name route) network

namespace Fault

instance : FromJson Fault where
  ofJson? value := do
    let field (name : String) : Json := (value.field? name).getD .null
    let skip ← match field "skip" with
      | .null => some 0
      | given => Json.natUpTo? (UInt32.size - 1) given
    some ⟨← ofJson? (field "verb"), ← ofJson? (field "kind"), ← ofJson? (field "name"),
      ← Json.natUpTo? (UInt16.size - 1) (field "code"), skip⟩

end Fault

def Store.item? (object : Json) : Option (Key × Json) :=
  (Store.keyOf? object).map (·, object)

def Store.putAll (items : List (Key × Json)) (store : Store) : Store :=
  items.foldl (fun store (key, object) => store.put key object) store

namespace Deed

def failureMark (code : Option Nat) : List (String × Json) :=
  (code.map fun n => ("failed", toJson n)).toList

instance : ToJson Deed where
  toJson
    | .write key w failed => Json.object ([
        ("verb", toJson w.verb.word), ("kind", toJson key.kind), ("namespace", toJson key.ns),
        ("name", toJson key.name), ("body", w.body)] ++ failureMark failed)
    | .event e failed => .object ([
        ("event", toJson e.reason), ("type", toJson e.type.word), ("note", toJson e.note)] ++
        failureMark failed)
    | .request peer port credentials sent => .object [
        ("broker", toJson (Network.addressed peer port sent)),
        ("auth", toJson credentials.authorization), ("body", toJson sent.body)]

end Deed

def Store.glance (key : Key) (store : Store) : List (String × Json) :=
  let object := store.get? key
  let shown (path : List String) : Json := toJson (object.bind (member? path))
  [("status", shown ["status"]), ("annotations", shown ["metadata", "annotations"]),
    ("finalizers", shown ["metadata", "finalizers"]), ("gone", toJson object.isNone)]

end BrokerFleet.Rehearsal
