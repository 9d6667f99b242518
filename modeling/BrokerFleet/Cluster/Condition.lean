import BrokerFleet.Json.Reader
import BrokerFleet.Time.Rfc3339

/-!
Conditions of a cluster or a job. A list of conditions holds what is known by type, the most
recently changed first.
-/

namespace BrokerFleet

open Json

inductive ConditionStatus where
  | true
  | false
  | unknown
  deriving DecidableEq, Repr, Inhabited

namespace ConditionStatus

def word : ConditionStatus → String
  | .true => "True"
  | .false => "False"
  | .unknown => "Unknown"

def all : List ConditionStatus :=
  [.true, .false, .unknown]

def ofWord? (word : String) : Option ConditionStatus :=
  all.find? (·.word == word)

def ofBool (holds : Bool) : ConditionStatus :=
  if holds then .true else .false

instance : FromJson ConditionStatus := ⟨fun value => (word? value).bind ofWord?⟩
instance : ToJson ConditionStatus := ⟨fun status => .string status.word⟩

end ConditionStatus

structure Condition where
  type : String
  status : ConditionStatus
  reason : String
  message : String
  lastUpdateTime : String
  lastTransitionTime : String
  deriving DecidableEq, Repr, Inhabited

namespace Condition

def initResourceReady : String := "InitResourceReady"
def running : String := "Running"
def blueGreenUpdating : String := "BlueGreenUpdating"
def reconciled : String := "Reconciled"
def processing : String := "Processing"
def completed : String := "Completed"
def failed : String := "Failed"

def new (type : String) (holds : Bool) (reason message : String) : Condition :=
  ⟨type, .ofBool holds, reason, message, "", ""⟩

def holds (c : Condition) : Bool :=
  c.status == .true

def saysSame (a b : Condition) : Bool :=
  a.status == b.status && a.reason == b.reason && a.message == b.message

instance : FromJson Condition where
  ofJson? value := do
    let f ← fields? ["type", "status", "reason", "message", "lastUpdateTime", "lastTransitionTime"] value
    some {
      type := ← f.required? "type"
      status := ← f.required? "status"
      reason := ← f.withDefault? "reason" ""
      message := ← f.withDefault? "message" ""
      lastUpdateTime := ← f.withDefault? "lastUpdateTime" ""
      lastTransitionTime := ← f.withDefault? "lastTransitionTime" "" }

instance : ToJson Condition where
  toJson c := record [
    ("type", some (.string c.type)),
    ("status", some (toJson c.status)),
    ("reason", unlessBlank c.reason),
    ("message", unlessBlank c.message),
    ("lastUpdateTime", some (.string c.lastUpdateTime)),
    ("lastTransitionTime", some (.string c.lastTransitionTime))]

def updated? (c : Condition) : Option Instant :=
  Rfc3339.parse? c.lastUpdateTime

end Condition

def instantLe : Option Instant → Option Instant → Bool
  | none, _ => true
  | some _, none => false
  | some a, some b => (compare a b).isLE

abbrev Conditions := List Condition

namespace Conditions

def find? (type : String) (conditions : Conditions) : Option Condition :=
  List.find? (·.type == type) conditions

def holds (type : String) (conditions : Conditions) : Bool :=
  (conditions.find? type).any Condition.holds

/-- The latest change first, unreadable times last; equal times keep their order. -/
def latestFirst (conditions : Conditions) : Conditions :=
  conditions.mergeSort fun a b => instantLe b.updated? a.updated?

def stamp (before : Option Condition) (c : Condition) (now : String) : Condition :=
  let since := match before with
    | some old => if old.status = c.status then old.lastTransitionTime else now
    | none => now
  { c with lastUpdateTime := now, lastTransitionTime := since }

/-- Enters a condition in the place of the one of its type. One that says nothing new leaves the
list as it is; the time of transition moves only with the status. -/
def set (c : Condition) (now : Instant) (conditions : Conditions) : Conditions :=
  let before := conditions.find? c.type
  if before.any (·.saysSame c) then conditions
  else
    let rest := conditions.filter (·.type != c.type)
    latestFirst (stamp before c (Rfc3339.format now) :: rest)

end Conditions

end BrokerFleet
