import BrokerFleet.Text.Numeral

/-!
Sets of characters, written as text: code points in hexadecimal, a run as its first and its last one with a dash
between them, all in rising order with blanks between them.
-/

namespace BrokerFleet.Text

def entries (table : String) : List (List Char) :=
  let onto (c : Char) (parts : List (List Char)) : List (List Char) :=
    if c = ' ' || c = '\n' then [] :: parts
    else match parts with
      | [] => [[c]]
      | part :: rest => (c :: part) :: rest
  (table.toList.foldr onto [[]]).filter (!·.isEmpty)

/-- How many elements begin at a place or before it, if they stand in the order in which they begin. -/
def countUpTo {α : Type} (beginning : α → Nat) (elements : Array α) (place low high : Nat) : Nat :=
  if low < high then
    match elements[(low + high) / 2]? with
    | some element =>
      if beginning element ≤ place then countUpTo beginning elements place ((low + high) / 2 + 1) high
      else countUpTo beginning elements place low ((low + high) / 2)
    | none => low
  else low
termination_by high - low

def lastUpTo? {α : Type} (beginning : α → Nat) (elements : Array α) (place : Nat) : Option α :=
  match countUpTo beginning elements place 0 elements.size with
  | 0 => none
  | count + 1 => elements[count]?

structure Run where
  first : Nat
  last : Nat
  deriving DecidableEq, Repr, Inhabited

def Run.ofText? (cs : List Char) : Option Run :=
  match splitFirst? '-' cs with
  | some (first, last) => do some ⟨← hexNat? first, ← hexNat? last⟩
  | none => (hexNat? cs).map fun n => ⟨n, n⟩

def runs (table : String) : List Run :=
  (entries table).filterMap Run.ofText?

/-- A set of characters as its runs in rising order. -/
structure CharSet where
  runs : Array Run
  deriving Inhabited

def CharSet.ofText (table : String) : CharSet :=
  ⟨(Text.runs table).toArray⟩

def CharSet.contains (set : CharSet) (c : Char) : Bool :=
  match lastUpTo? Run.first set.runs c.toNat with
  | some run => c.toNat ≤ run.last
  | none => false

end BrokerFleet.Text
