import BrokerFleet.Time.Rfc3339

/-!
Times of day and offsets from UTC as ISO 8601 writes them: separators may be left out throughout, minutes and
seconds at the end may be left out, and a comma may stand for the point. Each reader gives back the rest.
-/

namespace BrokerFleet.Clock

open Rfc3339

def startsWith (c : Char) (cs : List Char) : Bool :=
  cs.head? == some c

def between? (c : Char) (separated : Bool) (cs : List Char) : Option (List Char) :=
  if separated then mark? c cs else some cs

def further? (separated : Bool) (limit : Nat) (cs : List Char) : Option (Option Nat × List Char) :=
  let goesOn := if separated then startsWith ':' cs else (cs.head?.map Text.isDigit).getD false
  if goesOn then do
    let (n, rest) ← digits? 2 (← between? ':' separated cs)
    if n ≤ limit then some (some n, rest) else none
  else some (none, cs)

def nanos? : List Char → Option (Nat × List Char)
  | c :: rest =>
    if c = '.' ∨ c = ',' then do
      let digits := (rest.takeWhile Text.isDigit).take 9
      let n ← Text.unsigned? digits
      some (n * Nat.pow 10 (9 - digits.length), rest.drop digits.length)
    else some (0, c :: rest)
  | [] => some (0, [])

/-- Hours, and minutes, seconds and a fraction as far as they are given, in seconds and nanoseconds. Second 60
counts as second 59. -/
def read? (hours seconds : Nat) (cs : List Char) : Option (Nat × Nat × List Char) := do
  let (hour, rest) ← digits? 2 cs
  if hour > hours then none
  let separated := startsWith ':' rest
  match ← further? separated 59 rest with
  | (none, rest) => some (hour * 3600, 0, rest)
  | (some minute, rest) =>
    match ← further? separated seconds rest with
    | (none, rest) => some (hour * 3600 + minute * 60, 0, rest)
    | (some second, rest) =>
      let (nanos, rest) ← nanos? rest
      some (hour * 3600 + minute * 60 + Nat.min second 59, nanos, rest)

def lastOffsetHour : Nat := 25

/-- The offset from UTC in seconds, to the east; half a second counts as one. -/
def offset? : List Char → Option (Int × List Char)
  | 'Z' :: rest | 'z' :: rest => some (0, rest)
  | sign :: rest => do
    let (whole, nanos, rest) ← read? lastOffsetHour 59 rest
    let seconds := if nanos < 500000000 then whole else whole + 1
    if seconds ≥ (lastOffsetHour + 1) * 3600 then none
    if sign = '+' then some (seconds, rest) else if sign = '-' then some (-seconds, rest) else none
  | [] => none

def skipOffset? : List Char → Option (List Char)
  | sign :: rest => do
    let (hour, rest) ← digits? 2 rest
    let (_, rest) ← further? (startsWith ':' rest) 59 rest
    if (sign = '+' ∨ sign = '-') ∧ hour ≤ lastOffsetHour then some rest else none
  | [] => none

end BrokerFleet.Clock
