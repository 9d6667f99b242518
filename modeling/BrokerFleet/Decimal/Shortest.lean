import BrokerFleet.Decimal.Binary64

/-!
The shortest decimal text of a finite number: the fewest digits that read back as the same
number, of those the nearest to it.
-/

namespace BrokerFleet.Decimal

structure Scientific where
  digits : Nat
  power : Int
  deriving DecidableEq, Repr, Inhabited

namespace Shortest

/-- The reals that round to a number, as quarters of its last place: the value is `4 * m`. -/
structure Interval where
  low : Nat
  value : Nat
  high : Nat
  closed : Bool
  exponent : Int

def interval (x : Binary64) : Interval where
  low := if x.mantissa = Nat.pow 2 52 ∧ x.exponent > Binary64.leastExponent
    then 4 * x.mantissa - 1 else 4 * x.mantissa - 2
  value := 4 * x.mantissa
  high := 4 * x.mantissa + 2
  closed := x.mantissa % 2 = 0
  exponent := x.exponent - 2

def onGrid (n : Nat) (exponent power : Int) : Nat × Nat :=
  (n * Nat.pow 2 exponent.toNat * Nat.pow 10 (-power).toNat,
    Nat.pow 2 (-exponent).toNat * Nat.pow 10 power.toNat)

def inside (i : Interval) (power : Int) (k : Nat) : Bool :=
  let (l, d) := onGrid i.low i.exponent power
  let (h, _) := onGrid i.high i.exponent power
  if i.closed then l ≤ k * d && k * d ≤ h else l < k * d && k * d < h

/-- The grid point next to the value that rounds to it; of two, the nearer, and of two equally
near the even one. -/
def nearestInside? (i : Interval) (power : Int) : Option Nat :=
  let (v, d) := onGrid i.value i.exponent power
  let below := v / d
  let above := below + 1
  match inside i power below && below != 0, inside i power above with
  | true, true =>
    let rest := v % d
    if 2 * rest < d then some below
    else if d < 2 * rest then some above
    else if below % 2 = 0 then some below else some above
  | true, false => some below
  | false, true => some above
  | false, false => none

/-- How many tens the value is at least: the decimal exponent of its first digit. -/
def leadingPower (i : Interval) : Int :=
  let (v, d) := onGrid i.value i.exponent 0
  if d ≤ v then ((Nat.toDigits 10 (v / d)).length : Int) - 1
  else
    let inverse := (Nat.toDigits 10 (d / v)).length
    if v * Nat.pow 10 (inverse - 1) ≥ d then 1 - (inverse : Int) else -(inverse : Int)

def search (i : Interval) (lead : Int) : Nat → Nat → Scientific
  | 0, _ => ⟨i.value, 0⟩
  | fuel + 1, count =>
    let power := lead - count
    match nearestInside? i power with
    | some digits => ⟨digits, power⟩
    | none => search i lead fuel (count + 1)

def strip : Nat → Scientific → Scientific
  | 0, s => s
  | fuel + 1, s =>
    if s.digits ≠ 0 ∧ s.digits % 10 = 0 then strip fuel ⟨s.digits / 10, s.power + 1⟩ else s

end Shortest

/-- The fewest digits that read back as the magnitude of `x`; seventeen always do. -/
def Binary64.shortest (x : Binary64) : Scientific :=
  if x.mantissa = 0 then ⟨0, 0⟩
  else
    let i := Shortest.interval x
    Shortest.strip 20 (Shortest.search i (Shortest.leadingPower i) 20 0)

structure Layout where
  positionalFrom : Int
  positionalBelow : Int

namespace Layout

/-- Digits with a point after `count` of them, a zero on either side if nothing is there. -/
def positional (digits : List Char) (count : Int) : List Char :=
  if count ≤ 0 then
    '0' :: '.' :: (List.replicate (-count).toNat '0' ++ digits)
  else
    let whole := digits.take count.toNat
    let fraction := digits.drop count.toNat
    whole ++ List.replicate (count.toNat - whole.length) '0' ++
      '.' :: (if fraction.isEmpty then ['0'] else fraction)

def exponential (digits : List Char) (power : Int) : List Char :=
  let fraction := digits.drop 1
  digits.take 1 ++ (if fraction.isEmpty then [] else '.' :: fraction) ++
    'e' :: (if power < 0 then '-' else '+') :: Nat.toDigits 10 power.natAbs

def render (layout : Layout) (x : Binary64) : String :=
  let s := x.shortest
  let digits := Nat.toDigits 10 s.digits
  let lead := s.power + digits.length - 1
  let body :=
    if x.mantissa = 0 then "0.0".toList
    else if layout.positionalFrom ≤ lead ∧ lead < layout.positionalBelow then
      positional digits (lead + 1)
    else exponential digits lead
  String.ofList (if x.negative then '-' :: body else body)

end Layout

/-- All digits of a number before and after the point, which is left out if nothing follows it. -/
def Binary64.positional (x : Binary64) : String :=
  let s := x.shortest
  let digits := Nat.toDigits 10 s.digits
  let whole := if s.power < 0 then Layout.positional digits (s.power + digits.length)
    else digits ++ List.replicate s.power.toNat '0'
  String.ofList (if x.negative then '-' :: whole else whole)

end BrokerFleet.Decimal
