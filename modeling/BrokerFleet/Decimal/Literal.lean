import BrokerFleet.Decimal.Binary64
import BrokerFleet.Text.Numeral

/-!
Decimal literals. A literal is correctly rounded: the number nearest to the decimal that is
written, infinity beyond the greatest one. `inf`, `infinity` and `nan` are literals too.
-/

namespace BrokerFleet.Decimal

inductive Reading where
  | finite (value : Binary64)
  | infinite (negative : Bool)
  | notANumber
  deriving DecidableEq, Repr, Inhabited

inductive LiteralError where
  | empty
  | invalid
  deriving DecidableEq, Repr, Inhabited

def LiteralError.message : LiteralError → String
  | .empty => "cannot parse float from empty string"
  | .invalid => "invalid float literal"

namespace Literal

structure Parts where
  digits : Nat
  power : Int

/-- The nearest number. Powers far outside the range are decided without computing them. -/
def Parts.value (negative : Bool) (p : Parts) : Reading :=
  if p.digits = 0 then .finite (.zero negative)
  else
    let lead := p.power + (Nat.toDigits 10 p.digits).length
    if lead > 310 then .infinite negative
    else if lead < -330 then .finite (.zero negative)
    else
      match Binary64.round? negative (p.digits * Nat.pow 10 p.power.toNat)
          (Nat.pow 10 (-p.power).toNat) with
      | some x => .finite x
      | none => .infinite negative

def exponent? (cs : List Char) : Option Int :=
  Text.int? cs

/-- Digits, a point, digits, and an exponent; a digit must stand on one side of the point. -/
def parts? (cs : List Char) : Option Parts :=
  let whole := cs.takeWhile Text.isDigit
  let rest := cs.dropWhile Text.isDigit
  let (fraction, rest) := match rest with
    | '.' :: after => (after.takeWhile Text.isDigit, after.dropWhile Text.isDigit)
    | _ => ([], rest)
  if whole.isEmpty && fraction.isEmpty then none
  else do
    let digits ← Text.digitsOnto? 0 (whole ++ fraction)
    let power ← match rest with
      | [] => some 0
      | c :: after => if c = 'e' ∨ c = 'E' then exponent? after else none
    some ⟨digits, power - fraction.length⟩

def magnitude? (negative : Bool) (cs : List Char) : Option Reading :=
  let word := cs.map Char.toLower
  if word = "inf".toList ∨ word = "infinity".toList then some (.infinite negative)
  else if word = "nan".toList then some .notANumber
  else (parts? cs).map (Parts.value negative)

end Literal

def readLiteral (s : String) : Except LiteralError Reading :=
  let result := match s.toList with
    | '+' :: cs => Literal.magnitude? false cs
    | '-' :: cs => Literal.magnitude? true cs
    | cs => Literal.magnitude? false cs
  if s.isEmpty then .error .empty
  else match result with
    | some reading => .ok reading
    | none => .error .invalid

end BrokerFleet.Decimal
