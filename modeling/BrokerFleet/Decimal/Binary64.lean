/-!
Finite binary floating-point numbers of 64 bits, held exactly: a sign and a natural multiple of a
power of two. Every operation computes the exact quotient of naturals and rounds it once, to the
nearest number, halves to the even mantissa.
-/

namespace BrokerFleet.Decimal

/-- The number `mantissa * 2 ^ exponent`, negated if so marked. Values made by `Binary64.round?`
have a mantissa below `2 ^ 53`, of full width unless the exponent is the least one. -/
structure Binary64 where
  negative : Bool
  mantissa : Nat
  exponent : Int
  deriving DecidableEq, Repr, Inhabited

namespace Binary64

def precision : Nat := 53

def leastExponent : Int := -1074

def greatestExponent : Int := 971

def zero (negative : Bool) : Binary64 := ⟨negative, 0, leastExponent⟩

def roundQuotient (num den : Nat) : Nat :=
  let q := num / den
  let r := num % den
  if 2 * r < den then q
  else if den < 2 * r then q + 1
  else if q % 2 = 0 then q else q + 1

def inUnits (num den : Nat) (exponent : Int) : Nat × Nat :=
  if 0 ≤ exponent then (num, den * Nat.pow 2 exponent.toNat)
  else (num * Nat.pow 2 (-exponent).toNat, den)

/-- The exponent that leaves exactly 53 bits before the point, or the least one. -/
def scale (num den : Nat) : Int :=
  let guess : Int := (Nat.log2 num : Int) - Nat.log2 den - 52
  let (n, d) := inUnits num den guess
  let tight := if n / d < Nat.pow 2 52 then guess - 1 else guess
  max tight leastExponent

/-- The nearest number to `num / den`, unless that is beyond the greatest one. -/
def round? (negative : Bool) (num den : Nat) : Option Binary64 :=
  if num = 0 then some (zero negative)
  else
    let e := scale num den
    let (n, d) := inUnits num den e
    let m := roundQuotient n d
    let (m, e) := if m = Nat.pow 2 53 then (Nat.pow 2 52, e + 1) else (m, e)
    if e > greatestExponent then none
    else if m = 0 then some (zero negative)
    else some ⟨negative, m, e⟩

def ofNat? (n : Nat) : Option Binary64 :=
  round? false n 1

def magnitude (x : Binary64) : Nat × Nat :=
  if 0 ≤ x.exponent then (x.mantissa * Nat.pow 2 x.exponent.toNat, 1)
  else (x.mantissa, Nat.pow 2 (-x.exponent).toNat)

def timesPowerOfTen? (x : Binary64) (power : Nat) : Option Binary64 := do
  let factor ← ofNat? (Nat.pow 10 power)
  let (a, b) := x.magnitude
  let (c, d) := factor.magnitude
  round? x.negative (a * c) (b * d)

def overPowerOfTen? (x : Binary64) (power : Nat) : Option Binary64 := do
  let factor ← ofNat? (Nat.pow 10 power)
  let (a, b) := x.magnitude
  let (c, d) := factor.magnitude
  round? x.negative (a * d) (b * c)

end Binary64

end BrokerFleet.Decimal
