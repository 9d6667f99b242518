import BrokerFleet.Json.Patch
import BrokerFleet.Kubernetes.ApiError
import BrokerFleet.Kubernetes.Write

/-!
A store of objects that answers as the Kubernetes API does. Objects are kept in the order of their kinds,
namespaces and names. An object that is being deleted goes away with its last finalizer.
-/

namespace BrokerFleet.Rehearsal

open Json Kubernetes

structure Key where
  kind : String
  ns : String
  name : String
  deriving DecidableEq, Repr, Inhabited

def Key.before (a b : Key) : Bool :=
  decide (a.kind < b.kind) || a.kind == b.kind &&
    (decide (a.ns < b.ns) || a.ns == b.ns && decide (a.name < b.name))

abbrev Store := List (Key × Json)

def member? (path : List String) (object : Json) : Option Json :=
  path.foldlM (fun value name => value.field? name) object

def text? (path : List String) (object : Json) : Option String :=
  (member? path object).bind ofJson?

def setMember (path : List String) (value object : Json) : Json :=
  object.merge (path.foldr (fun name inner => .object [(name, inner)]) value)

namespace Store

def get? (key : Key) (store : Store) : Option Json :=
  (store.find? (·.1 == key)).map (·.2)

def put (key : Key) (object : Json) : Store → Store
  | [] => [(key, object)]
  | (k, o) :: rest =>
    if k == key then (key, object) :: rest
    else if key.before k then (key, object) :: (k, o) :: rest
    else (k, o) :: put key object rest

def remove (key : Key) (store : Store) : Store :=
  store.filter (·.1 != key)

def keyOf? (object : Json) : Option Key := do
  let kind ← text? ["kind"] object
  let name ← text? ["metadata", "name"] object
  some ⟨kind, (text? ["metadata", "namespace"] object).getD "default", name⟩

def selected (selector : String) : List (String × String) :=
  (Text.splitAll ',' selector.toList).filterMap fun term =>
    (Text.splitFirst? '=' term).map fun (name, value) => (String.ofList name, String.ofList value)

def isSelected (selector : String) (object : Json) : Bool :=
  (selected selector).all fun (name, value) =>
    text? ["metadata", "labels", name] object == some value

def list (kind ns : String) (store : Store) : List Json :=
  (store.filter fun (key, _) => key.kind == kind && key.ns == ns).map (·.2)

def stamped (now : Instant) (object : Json) : Json :=
  match member? ["metadata", "creationTimestamp"] object with
  | none | some .null =>
    setMember ["metadata", "creationTimestamp"] (.string (Rfc3339.format now)) object
  | some _ => object

def isReleased (object : Json) : Bool :=
  (text? ["metadata", "deletionTimestamp"] object).isSome &&
    match member? ["metadata", "finalizers"] object with
    | none | some .null | some (.array []) => true
    | some _ => false

def settle (now : Instant) (key : Key) (object : Json) (store : Store) : Store :=
  if isReleased object then store.remove key else store.put key (stamped now object)

def mergeCondition (conditions : List Json) (condition : Json) : List Json :=
  let type := condition.field? "type"
  if conditions.any fun c => c.field? "type" == type then
    conditions.map fun c => if c.field? "type" == type then c.merge condition else c
  else conditions ++ [condition]

def mergeConditions (patch object : Json) : Json :=
  let items (value : Json) := match member? ["status", "conditions"] value with
    | some (.array items) => items
    | _ => []
  setMember ["status", "conditions"] (.array ((items patch).foldl mergeCondition (items object))) object

def replaceStatus (status object : Json) : Json :=
  match object with
  | .object members => .object (insert "status" status members)
  | other => other

def written (verb : Verb) (body : Json) (edits : List PatchOp) (stored : Option Json) :
    Except ApiError Json :=
  match verb, stored with
  | .create, none => .ok body
  | .create, some _ => .error .conflict
  | .apply, stored => .ok ((stored.getD (.object [])).merge body)
  | _, none => .error .notFound
  | .merge, some found => .ok (found.merge body)
  | .strategic, some found => .ok (mergeConditions body found)
  | .edit, some found =>
    match applyOps? found edits with
    | some edited => .ok edited
    | none => .error .unprocessable
  | .replaceStatus, some found => .ok (replaceStatus body found)

def editsOf : Write → List PatchOp
  | .editFinalizers _ edits => edits
  | _ => []

def carryOut (now : Instant) (key : Key) (w : Write) (store : Store) : Except ApiError (Json × Store) := do
  let object ← written w.verb w.body (editsOf w) (store.get? key)
  return (stamped now object, store.settle now key object)

end Store

end BrokerFleet.Rehearsal
