import BrokerFleet.Digest.SafeNumeral
import BrokerFleet.Digest.Sha256
import BrokerFleet.Json.Printer
import BrokerFleet.Json.Reader
import BrokerFleet.Text.Utf8

/-!
Names of generations. A generation is named after the hash of its pod specification, so that one
template has one generation; only the specification counts, not the labels around it. When a name is
taken by a generation of another template, a salt goes into the hash.
-/

namespace BrokerFleet.Generation

def nameAttempts : Nat := 16

def hashedText (spec : Json) : String :=
  spec.sorted.compact

def littleEndian (n : UInt32) : List UInt8 :=
  [n.toUInt8, (n >>> 8).toUInt8, (n >>> 16).toUInt8, (n >>> 24).toUInt8]

def ofLittleEndian : List UInt8 → UInt32
  | a :: b :: c :: d :: _ =>
    a.toUInt32 ||| (b.toUInt32 <<< 8) ||| (c.toUInt32 <<< 16) ||| (d.toUInt32 <<< 24)
  | _ => 0

def saltedHash (text : String) (salt : Option UInt32) : String :=
  let salted := Text.Utf8.encode text ++ (salt.map littleEndian).getD []
  Digest.SafeNumeral.encode (ofLittleEndian (Digest.Sha256.hash salted))

def templateHash (spec : Json) : String :=
  saltedHash (hashedText spec) none

structure Existing where
  name : String
  hash : Option String
  deriving DecidableEq, Repr, Inhabited

instance : FromJson Existing where
  ofJson? value := do
    some ⟨← (value.field? "name").bind ofJson?, ← ofJson? ((value.field? "hash").getD .null)⟩

inductive Resolved where
  | adopt (name hash : String)
  /-- There is none; the name is free for one. -/
  | create (name hash : String)
  deriving DecidableEq, Repr, Inhabited

namespace Resolved

def name : Resolved → String
  | adopt name _ | create name _ => name

def hash : Resolved → String
  | adopt _ hash | create _ hash => hash

instance : ToJson Resolved where
  toJson
    | adopt name hash => .object [("how", .string "adopt"), ("name", toJson name), ("hash", toJson hash)]
    | create name hash => .object [("how", .string "create"), ("name", toJson name), ("hash", toJson hash)]

end Resolved

def saltOf (attempt : Nat) : Option UInt32 :=
  if attempt = 0 then none else some (UInt32.ofNat attempt)

def candidate (hashOf : Option UInt32 → String) (base : String) (attempt : Nat) : String :=
  base ++ "-" ++ hashOf (saltOf attempt)

/-- The generation of a template, given the hashes of its text: the first one that carries the
hash, or else the first free name. There is none if all names are taken. -/
def resolve? (hashOf : Option UInt32 → String) (base : String) (existing : List Existing) :
    Option Resolved :=
  let hash := hashOf none
  match existing.find? (·.hash == some hash) with
  | some found => some (.adopt found.name hash)
  | none =>
    let names := (List.range nameAttempts).map (candidate hashOf base)
    (names.find? fun name => !existing.any (·.name == name)).map (.create · hash)

/-- Resolves a template again and again, while generations of another template take each name that was
free for it. -/
def resolveEach (hashOf : Option UInt32 → String) (base : String) : Nat → List Existing → List (Option Resolved)
  | 0, _ => []
  | times + 1, existing =>
    let resolved := resolve? hashOf base existing
    let taken := match resolved with
      | some (.create name _) => existing ++ [⟨name, some "foreign"⟩]
      | _ => existing
    resolved :: resolveEach hashOf base times taken

end BrokerFleet.Generation
