import BrokerFleet.Time.Calendar
import BrokerFleet.Time.Instant

/-!
Time stamps as RFC 3339 writes them. Reading takes `T`, `t` or a blank between date and time, any
number of digits after the point of which nine count, second 60, and an offset within a day with
`+`, `-` or U+2212 as its sign. Writing gives whole seconds in UTC.
-/

namespace BrokerFleet.Rfc3339

def digits? (count : Nat) (cs : List Char) : Option (Nat × List Char) :=
  if (cs.take count).length < count then none
  else do
    let n ← Text.unsigned? (cs.take count)
    some (n, cs.drop count)

def mark? (c : Char) : List Char → Option (List Char)
  | d :: rest => if d = c then some rest else none
  | [] => none

def separator? : List Char → Option (List Char)
  | c :: rest => if c = 'T' ∨ c = 't' ∨ c = ' ' then some rest else none
  | [] => none

/-- Digits after the point, as nanoseconds; those beyond the ninth are dropped. -/
def fraction? : List Char → Option (Nat × List Char)
  | '.' :: rest =>
    let digits := rest.takeWhile Text.isDigit
    if digits.isEmpty then none
    else do
      let nine := digits.take 9
      let n ← Text.unsigned? nine
      some (n * Nat.pow 10 (9 - nine.length), rest.dropWhile Text.isDigit)
  | cs => some (0, cs)

def offset? : List Char → Option (Int × List Char)
  | 'Z' :: rest => some (0, rest)
  | 'z' :: rest => some (0, rest)
  | sign :: rest => do
    let east ← if sign = '+' then some true
      else if sign = '-' ∨ sign = Char.ofNat 0x2212 then some false
      else none
    let (hours, rest) ← digits? 2 rest
    let rest ← mark? ':' rest
    let (minutes, rest) ← digits? 2 rest
    if hours < 24 ∧ minutes < 60 then
      let seconds : Int := hours * 3600 + minutes * 60
      some (if east then seconds else -seconds, rest)
    else none
  | [] => none

def parse? (s : String) : Option Instant := do
  let (year, rest) ← digits? 4 s.toList
  let (month, rest) ← digits? 2 (← mark? '-' rest)
  let (day, rest) ← digits? 2 (← mark? '-' rest)
  let (hour, rest) ← digits? 2 (← separator? rest)
  let (minute, rest) ← digits? 2 (← mark? ':' rest)
  let (second, rest) ← digits? 2 (← mark? ':' rest)
  let (nanos, rest) ← fraction? rest
  let (offset, rest) ← offset? rest
  let date : CivilDate := ⟨year, month, day⟩
  if rest.isEmpty && date.isValid && hour < 24 && minute < 60 && second ≤ 60 then
    let (second, nanos) := if second = 60 then (59, nanos + 1000000000) else (second, nanos)
    some ⟨date.toDays * 86400 + hour * 3600 + minute * 60 + second - offset, nanos⟩
  else none

def yearText (year : Int) : String :=
  if 0 ≤ year ∧ year ≤ 9999 then Text.padded 4 year.toNat
  else (if year < 0 then "-" else "+") ++ Text.padded 4 year.natAbs

def format (t : Instant) : String :=
  let date := CivilDate.ofDays (t.seconds / 86400)
  let inDay := (t.seconds % 86400).toNat
  let second := inDay % 60 + if t.nanos < 1000000000 then 0 else 1
  yearText date.year ++ "-" ++ Text.padded 2 date.month ++ "-" ++ Text.padded 2 date.day ++ "T" ++
    Text.padded 2 (inDay / 3600) ++ ":" ++ Text.padded 2 (inDay / 60 % 60) ++ ":" ++
    Text.padded 2 second ++ "Z"

end BrokerFleet.Rfc3339
