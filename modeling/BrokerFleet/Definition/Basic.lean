import BrokerFleet.Cluster.Basic
import BrokerFleet.Definition.Schema

/-!
Definitions of kinds of resource, as a Kubernetes cluster is told about them: names, columns of listings and
the schemas of spec and status.
-/

namespace BrokerFleet

open Json

structure Column where
  name : String
  type : String
  path : String
  deriving DecidableEq, Repr, Inhabited

instance : ToJson Column where
  toJson c := Json.texts [("jsonPath", c.path), ("name", c.name), ("type", c.type)]

def Column.age : Column := ⟨"Age", "date", ".metadata.creationTimestamp"⟩

structure Definition where
  kind : String
  plural : String
  singular : String
  shortName : String
  columns : List Column
  spec : Schema
  status : Schema
  deriving Inhabited

namespace Definition

def name (d : Definition) : String :=
  d.plural ++ "." ++ apiGroup

def schema (d : Definition) : Json :=
  let whole : Schema := .described
    ("Auto-generated derived type for " ++ d.kind ++ "Spec via `CustomResource`")
    (.record [Schema.required "spec" d.spec, Schema.orNull "status" d.status])
  .object (insert "title" (.string d.kind) whole.members)

def version (d : Definition) : Json :=
  .object [
    ("additionalPrinterColumns", toJson d.columns), ("name", .string kindVersion),
    ("schema", .object [("openAPIV3Schema", d.schema)]), ("served", .bool true), ("storage", .bool true),
    ("subresources", .object [("status", .object [])])]

def names (d : Definition) : Json :=
  .object [
    ("categories", .array []), ("kind", .string d.kind), ("plural", .string d.plural),
    ("shortNames", Json.strings [d.shortName]), ("singular", .string d.singular)]

instance : ToJson Definition where
  toJson d := .object [
    ("apiVersion", .string "apiextensions.k8s.io/v1"), ("kind", .string "CustomResourceDefinition"),
    ("metadata", .object [("name", .string d.name)]),
    ("spec", .object [
      ("group", .string apiGroup), ("names", d.names), ("scope", .string "Namespaced"),
      ("versions", .array [d.version])])]

end Definition

end BrokerFleet
