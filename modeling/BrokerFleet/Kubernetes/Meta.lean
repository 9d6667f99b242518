import BrokerFleet.Kubernetes.Shape

/-!
The metadata of Kubernetes objects: the members that the operator looks at, and the others as they
were given.
-/

namespace BrokerFleet.Kubernetes

open Json Shape

abbrev Labels := List (String × String)

def Labels.get? (name : String) (labels : Labels) : Option String :=
  (labels.find? (·.1 == name)).map (·.2)

def Labels.set (name value : String) : Labels → Labels
  | [] => [(name, value)]
  | (k, v) :: rest =>
    if k == name then (k, value) :: rest
    else if name < k then (name, value) :: (k, v) :: rest
    else (k, v) :: Labels.set name value rest

structure OwnerReference where
  apiVersion : String
  kind : String
  name : String
  uid : String
  controller : Option Bool
  blockOwnerDeletion : Option Bool
  deriving DecidableEq, Repr, Inhabited

structure Meta where
  name : Option String
  generateName : Option String
  ns? : Option String
  uid : Option String
  generation : Option Int64
  labels : Option Labels
  annotations : Option Labels
  owners : Option (List OwnerReference)
  finalizers : Option (List String)
  created : Option Instant
  deleted : Option Instant
  others : Members
  deriving Inhabited

def ownerReferenceShape : Shape :=
  objectOf (each .string ["apiVersion", "kind", "name", "uid"])
    (each .bool ["blockOwnerDeletion", "controller"])

def managedFieldsShape : Shape :=
  objectOf [] (each .string ["apiVersion", "fieldsType", "manager", "operation", "subresource"] ++
    [("fieldsV1", .any), ("time", .time)])

def passedOn : List (String × Shape) :=
  [("deletionGracePeriodSeconds", .int64), ("managedFields", .list managedFieldsShape),
    ("resourceVersion", .string), ("selfLink", .string)]

def metaShape : Shape :=
  objectOf []
    (each .string ["generateName", "name", "namespace", "uid"] ++ each textMap ["annotations", "labels"] ++
      each .time ["creationTimestamp", "deletionTimestamp"] ++
      [("finalizers", textList), ("generation", .int64), ("ownerReferences", .list ownerReferenceShape)] ++
      passedOn)

namespace OwnerReference

instance : FromJson OwnerReference where
  ofJson? value := do
    let f ← fields? [] (← ownerReferenceShape.normalize? value)
    some {
      apiVersion := ← f.required? "apiVersion"
      kind := ← f.required? "kind"
      name := ← f.required? "name"
      uid := ← f.required? "uid"
      controller := ← f.optional? "controller"
      blockOwnerDeletion := ← f.optional? "blockOwnerDeletion" }

instance : ToJson OwnerReference where
  toJson o := record [
    ("apiVersion", some (.string o.apiVersion)),
    ("blockOwnerDeletion", o.blockOwnerDeletion.map .bool),
    ("controller", o.controller.map .bool),
    ("kind", some (.string o.kind)),
    ("name", some (.string o.name)),
    ("uid", some (.string o.uid))]

end OwnerReference

namespace Meta

def labels? (f : Fields) (name : String) : Option (Option Labels) :=
  match f name with
  | none => some none
  | some value => (texts? value).map some

def instant? (f : Fields) (name : String) : Option (Option Instant) :=
  match f name with
  | some (.string s) => (Stamp.parse? s).map some
  | _ => some none

def ofJson? (value : Json) : Option Meta := do
  let given ← fields? [] value
  let normal ← metaShape.normalize? value
  let f ← fields? [] normal
  some {
    name := ← f.optional? "name"
    generateName := ← f.optional? "generateName"
    ns? := ← f.optional? "namespace"
    uid := ← f.optional? "uid"
    generation := ← f.optional? "generation"
    labels := ← labels? f "labels"
    annotations := ← labels? f "annotations"
    owners := ← f.optional? "ownerReferences"
    finalizers := ← f.optional? "finalizers"
    created := ← instant? given "creationTimestamp"
    deleted := ← instant? given "deletionTimestamp"
    others := match normal with
      | .object members => members.filter fun (name, _) => passedOn.any (·.1 == name)
      | _ => [] }

instance : FromJson Meta := ⟨ofJson?⟩

instance : ToJson Meta where
  toJson m := sorted (record (m.others.map (fun (name, value) => (name, some value)) ++ [
    ("annotations", m.annotations.map texts),
    ("creationTimestamp", m.created.map fun t => .string (Stamp.format t)),
    ("deletionTimestamp", m.deleted.map fun t => .string (Stamp.format t)),
    ("finalizers", m.finalizers.map Json.strings),
    ("generateName", m.generateName.map .string),
    ("generation", m.generation.map toJson),
    ("labels", m.labels.map texts),
    ("name", m.name.map .string),
    ("namespace", m.ns?.map .string),
    ("ownerReferences", m.owners.map toJson),
    ("uid", m.uid.map .string)]))

def ofResource? (value : Json) : Option Meta :=
  match value.field? "metadata" with
  | none | some .null => ofJson? (.object [])
  | some metadata => ofJson? metadata

/-- The name, or else the beginning from which a name is to be made, or else nothing. -/
def displayName (m : Meta) : String :=
  (m.name <|> m.generateName).getD ""

def label? (m : Meta) (name : String) : Option String :=
  m.labels.bind (Labels.get? name)

def annotation? (m : Meta) (name : String) : Option String :=
  m.annotations.bind (Labels.get? name)

end Meta

end BrokerFleet.Kubernetes
