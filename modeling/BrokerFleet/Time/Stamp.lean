import BrokerFleet.Time.Annotation

/-!
Time stamps of Kubernetes objects, which follow ISO 8601 more loosely than RFC 3339 does: separators may be left
out throughout a date or a time, a year may have a sign and six digits, and annotations may follow. Writing gives
whole seconds in UTC.
-/

namespace BrokerFleet.Stamp

open Rfc3339 Clock

def year? : List Char → Option (Int × List Char)
  | '+' :: rest => (digits? 6 rest).map fun (n, rest) => (n, rest)
  | '-' :: rest => (digits? 6 rest).bind fun (n, rest) => if n = 0 then none else some (-n, rest)
  | rest => (digits? 4 rest).map fun (n, rest) => (n, rest)

def date? (cs : List Char) : Option (CivilDate × List Char) := do
  let (year, rest) ← year? cs
  let separated := startsWith '-' rest
  let (month, rest) ← digits? 2 (← between? '-' separated rest)
  let (day, rest) ← digits? 2 (← between? '-' separated rest)
  let date : CivilDate := ⟨year, month, day⟩
  if date.isValid && -9999 ≤ year && year ≤ 9999 then some (date, rest) else none

def earliest : Int := -377705023201

def latest : Int := 253402207200

def parse? (s : String) : Option Instant := do
  let (date, rest) ← date? s.toList
  let (inDay, nanos, rest) ← read? 23 60 (← separator? rest)
  let (offset, rest) ← Clock.offset? rest
  let seconds := date.toDays * 86400 + inDay - offset
  if Annotation.areAnnotations rest && earliest ≤ seconds && seconds ≤ latest then some ⟨seconds, nanos⟩
  else none

/-- A year in four characters at least, the sign of a year before the year 0 being one of them. -/
def yearText (year : Int) : String :=
  if 0 ≤ year then Text.padded 4 year.toNat else "-" ++ Text.padded 3 year.natAbs

def format (t : Instant) : String :=
  let date := CivilDate.ofDays (t.seconds / 86400)
  let inDay := (t.seconds % 86400).toNat
  yearText date.year ++ "-" ++ Text.padded 2 date.month ++ "-" ++ Text.padded 2 date.day ++ "T" ++
    Text.padded 2 (inDay / 3600) ++ ":" ++ Text.padded 2 (inDay / 60 % 60) ++ ":" ++
    Text.padded 2 (inDay % 60) ++ "Z"

end BrokerFleet.Stamp
