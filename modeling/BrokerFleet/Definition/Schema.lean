import BrokerFleet.Json.Reader

/-!
Schemas of resources: what a field may hold, what is said about it and which rules it obeys. `Schema.toJson`
writes a schema as the definition of a resource shows it.
-/

namespace BrokerFleet

open Json

inductive Schema where
  | text
  | truth
  | int32
  | int64
  | intOrText
  | word (words : List String)
  | list (item : Schema)
  | map (value : Schema)
  | record (fields : List (String × Bool × Schema))
  | described (note : String) (schema : Schema)
  | withDefault (value : Json) (schema : Schema)
  | nullable (schema : Schema)
  /-- With a rule that values obey, and what is said of a value that does not. -/
  | ruled (rule message : String) (schema : Schema)

namespace Schema

instance : Inhabited Schema := ⟨.text⟩

def required (name : String) (schema : Schema) : String × Bool × Schema :=
  (name, true, schema)

def optional (name : String) (schema : Schema) : String × Bool × Schema :=
  (name, false, schema)

def requiredNames (fields : List (String × Bool × Schema)) : List String :=
  ((fields.filter (·.2.1)).map (·.1)).mergeSort fun a b => decide (a ≤ b)

def number (format : String) : Members :=
  [("format", .string format), ("type", .string "integer")]

/-- Marks that a value may be `null`; of words, `null` is one more. -/
def allowNull (members : Members) : Members :=
  let words := match lookup "enum" members with
    | some (.array words) => insert "enum" (.array (words ++ [.null])) members
    | _ => members
  insert "nullable" (.bool true) words

def addRule (rule message : String) (members : Members) : Members :=
  let rules := match lookup "x-kubernetes-validations" members with
    | some (.array rules) => rules
    | _ => []
  let added := Json.texts [("message", message), ("rule", rule)]
  insert "x-kubernetes-validations" (.array (rules ++ [added])) members

mutual

def members : Schema → Members
  | .text => [("type", .string "string")]
  | .truth => [("type", .string "boolean")]
  | .int32 => number "int32"
  | .int64 => number "int64"
  | .intOrText => [("x-kubernetes-int-or-string", .bool true)]
  | .word words => [("enum", Json.strings words), ("type", .string "string")]
  | .list item => [("items", .object item.members), ("type", .string "array")]
  | .map value => [("additionalProperties", .object value.members), ("type", .string "object")]
  | .record fields =>
    [("properties", .object (properties fields))] ++
      (unlessEmpty ((requiredNames fields).map .string)).toList.map (("required", ·)) ++
      [("type", .string "object")]
  | .described note schema => insert "description" (.string note) schema.members
  | .withDefault value schema => insert "default" value.sorted schema.members
  | .nullable schema => allowNull schema.members
  | .ruled rule message schema => addRule rule message schema.members

def properties : List (String × Bool × Schema) → Members
  | [] => []
  | (name, _, schema) :: rest => insert name (.object schema.members) (properties rest)

end

instance : ToJson Schema := ⟨fun schema => .object schema.members⟩

def texts : Schema := .list .text

def orNull (name : String) (schema : Schema) : String × Bool × Schema :=
  optional name (.nullable schema)

end Schema

end BrokerFleet
