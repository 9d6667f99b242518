import BrokerFleet.Time.Clock

/-!
What may follow a time stamp in brackets: the name or the offset of a time zone, and then keys with values. A mark
of exclamation says that what follows has to be understood; time zones are, keys are not. The instant of a stamp
does not depend on any of it.
-/

namespace BrokerFleet.Annotation

open Rfc3339 Clock

def skipRun? (first others : Char → Bool) : List Char → Option (List Char)
  | c :: rest => if first c then some (rest.dropWhile others) else none
  | [] => none

/-- Skips one or more runs with a mark between them; `count` bounds how many runs there are. -/
def skipRuns? (mark : Char) (run? : List Char → Option (List Char)) :
    (count : Nat) → List Char → Option (List Char)
  | 0, _ => none
  | count + 1, cs => do
    let rest ← run? cs
    match rest with
    | c :: after => if c = mark then skipRuns? mark run? count after else some rest
    | [] => some []

def zonePart? : List Char → Option (List Char) :=
  skipRun? (fun c => c.isAlpha || c = '_' || c = '.')
    fun c => c.isAlphanum || c = '_' || c = '.' || c = '+' || c = '-'

def key? : List Char → Option (List Char) :=
  skipRun? (fun c => c.isLower || c = '_') fun c => c.isLower || c.isDigit || c = '_' || c = '-'

def valuePart? : List Char → Option (List Char) :=
  skipRun? Char.isAlphanum Char.isAlphanum

def critical : List Char → Bool × List Char
  | '!' :: rest => (true, rest)
  | cs => (false, cs)

/-- Skips the time zone in a bracket that has been opened. What has a key is no time zone. -/
def skipZone? (cs : List Char) : Option (List Char) := do
  let (_, inner) := critical cs
  let rest ← if startsWith '+' inner || startsWith '-' inner then skipOffset? inner
    else skipRuns? '/' zonePart? inner.length inner
  mark? ']' rest

def skipTag? (cs : List Char) : Option (List Char) := do
  let (isCritical, inner) := critical cs
  let rest ← mark? '=' (← key? inner)
  let rest ← mark? ']' (← skipRuns? '-' valuePart? rest.length rest)
  if isCritical then none else some rest

def areTags : (count : Nat) → List Char → Bool
  | _, [] => true
  | 0, _ => false
  | count + 1, cs =>
    match (mark? '[' cs).bind skipTag? with
    | some rest => areTags count rest
    | none => false

def areAnnotations (cs : List Char) : Bool :=
  let tags := match (mark? '[' cs).bind skipZone? with
    | some rest => rest
    | none => cs
  areTags tags.length tags

end BrokerFleet.Annotation
