import BrokerFleet.Json.Pointer

/-!
Changes to a JSON value: the merge patch of RFC 7396, and the operations of RFC 6902 that test,
add and remove a value at a path of member names ending in a list position.
-/

namespace BrokerFleet.Json

mutual

def merge (target : Json) : Json → Json
  | .object patch =>
    let members := match target with
      | .object members => members
      | _ => []
    .object (mergeMembers members patch)
  | other => other

def mergeMembers (members : Members) : List (String × Json) → Members
  | [] => members
  | (name, patch) :: rest =>
    let next := match patch with
      | .null => erase name members
      | _ => insert name (merge ((lookup name members).getD .null) patch) members
    mergeMembers next rest

end

inductive PatchOp where
  | test (path : String) (value : Json)
  | add (path : String) (value : Json)
  | remove (path : String)
  deriving Inhabited

def PatchOp.toJson : PatchOp → Json
  | .test path value =>
    .object [("op", .string "test"), ("path", .string path), ("value", value)]
  | .add path value =>
    .object [("op", .string "add"), ("path", .string path), ("value", value)]
  | .remove path => .object [("op", .string "remove"), ("path", .string path)]

/-- Changes the value at a path of steps; `change` gets the holder and the last step. -/
def editAt? (change : Json → String → Option Json) : List String → Json → Option Json
  | [], _ => none
  | [last], holder => change holder last
  | step :: steps, holder =>
    match holder with
    | .object members => do
      let inner ← lookup step members
      some (.object (insert step (← editAt? change steps inner) members))
    | .array items => do
      let i ← index? step
      let inner ← items[i]?
      some (.array (items.set i (← editAt? change steps inner)))
    | _ => none

def addTo? (value holder : Json) (step : String) : Option Json :=
  match holder with
  | .object members => some (.object (insert step value members))
  | .array items =>
    if step = "-" then some (.array (items ++ [value]))
    else (index? step).bind fun i =>
      if i ≤ items.length then some (.array (items.insertIdx i value)) else none
  | _ => none

def removeFrom? (holder : Json) (step : String) : Option Json :=
  match holder with
  | .object members =>
    if (lookup step members).isSome then some (.object (erase step members)) else none
  | .array items => (index? step).bind fun i =>
    if i < items.length then some (.array (items.eraseIdx i)) else none
  | _ => none

def applyOp? (target : Json) : PatchOp → Option Json
  | .test path value => if (target.at? path).getD .null == value then some target else none
  | .add path value => do editAt? (addTo? value) (← pointerSteps? path) target
  | .remove path => do editAt? removeFrom? (← pointerSteps? path) target

def applyOps? (target : Json) (ops : List PatchOp) : Option Json :=
  ops.foldlM applyOp? target

end BrokerFleet.Json
