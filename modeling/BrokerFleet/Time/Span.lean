import BrokerFleet.Text.Numeral

/-!
Lengths of time in whole nanoseconds, at most `2 ^ 64` seconds less one nanosecond, and their text.
-/

namespace BrokerFleet

structure Span where
  nanos : Nat
  deriving DecidableEq, Repr, Inhabited, Ord

namespace Span

def longest : Span := ⟨UInt64.size * 1000000000 - 1⟩

def ofSeconds (n : Nat) : Span := ⟨n * 1000000000⟩

def ofMillis (n : Nat) : Span := ⟨n * 1000000⟩

def min (a b : Span) : Span := ⟨Nat.min a.nanos b.nanos⟩

def times (a : Span) (k : Nat) : Span :=
  min ⟨a.nanos * k⟩ longest

/-- A fraction of `width` digits without the zeros at its end, a point in front if any are left. -/
def fraction (width n : Nat) : String :=
  let digits := ((Text.padded width n).toList.reverse.dropWhile (· == '0')).reverse
  String.ofList (if digits.isEmpty then [] else '.' :: digits)

/-- In the greatest unit of which there is at least one; nothing at all is `0ns`. -/
def render (a : Span) : String :=
  let n := a.nanos
  if 1000000000 ≤ n then toString (n / 1000000000) ++ fraction 9 (n % 1000000000) ++ "s"
  else if 1000000 ≤ n then toString (n / 1000000) ++ fraction 6 (n % 1000000) ++ "ms"
  else if 1000 ≤ n then toString (n / 1000) ++ fraction 3 (n % 1000) ++ "µs"
  else toString n ++ "ns"

end Span

end BrokerFleet
