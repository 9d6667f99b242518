import BrokerFleet.Time.Span

/-!
Points in time, in UTC. A leap second is the second half of the second before it: its nanoseconds
count on from `10 ^ 9`.
-/

namespace BrokerFleet

structure Instant where
  /-- Whole seconds since 1970-01-01T00:00:00Z, leap seconds not counted. -/
  seconds : Int
  nanos : Nat
  deriving DecidableEq, Repr, Inhabited

namespace Instant

def compare (a b : Instant) : Ordering :=
  (Ord.compare a.seconds b.seconds).then (Ord.compare a.nanos b.nanos)

instance : Ord Instant := ⟨compare⟩

def secondOfDay (t : Instant) : Int :=
  t.seconds % 86400

def add (t : Instant) (d : Span) : Instant :=
  let whole : Nat := d.nanos / 1000000000
  let rest : Nat := d.nanos % 1000000000
  if t.nanos < 1000000000 then
    let n := t.nanos + rest
    ⟨t.seconds + whole + (n / 1000000000 : Nat), n % 1000000000⟩
  else if whole = 0 ∧ t.nanos + rest < 2 * 1000000000 then ⟨t.seconds, t.nanos + rest⟩
  else
    let n := t.nanos - 1000000000 + rest
    ⟨t.seconds + whole + (n / 1000000000 : Nat), n % 1000000000⟩

/-- The longest delay that can be added to an instant: `2 ^ 63 - 1` milliseconds. -/
def longestDelay : Span := .ofMillis (UInt64.size / 2 - 1)

/-- The instant after a delay. One that is too long to be added does not count. -/
def after (t : Instant) (delay : Span) : Instant :=
  if delay.nanos ≤ longestDelay.nanos then t.add delay else t

/-- The second in which the calendar ends: 262142-12-31T23:59:59Z. -/
def lastSecond : Int := 8210266876799

def after? (t : Instant) (delay : Span) : Option Instant :=
  if (t.after delay).seconds ≤ lastSecond then some (t.after delay) else none

/-- Nanoseconds from `earlier` to `t`, negative if `earlier` is the later one. A leap second
between two instants of one day counts. -/
def nanosSince (t earlier : Instant) : Int :=
  let leap : Int :=
    if t.secondOfDay > earlier.secondOfDay ∧ earlier.nanos ≥ 1000000000 then 1
    else if t.secondOfDay < earlier.secondOfDay ∧ t.nanos ≥ 1000000000 then -1
    else 0
  (t.seconds - earlier.seconds + leap) * 1000000000 + ((t.nanos : Int) - earlier.nanos)

def remaining? (t now : Instant) : Option Span :=
  let n := t.nanosSince now
  if 0 < n then some ⟨n.toNat⟩ else none

def wholeSeconds (t : Instant) : Instant :=
  { t with nanos := if t.nanos < 1000000000 then 0 else 1000000000 }

end Instant

end BrokerFleet
