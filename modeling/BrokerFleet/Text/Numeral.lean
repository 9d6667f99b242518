import BrokerFleet.Text.Split

/-!
Whole numbers as text. A numeral is a run of decimal digits with at most one sign in front;
blanks, separators and empty runs are refused, leading zeros are not.
-/

namespace BrokerFleet.Text

def digitValue? (c : Char) : Option Nat :=
  if '0' ≤ c ∧ c ≤ '9' then some (c.toNat - '0'.toNat) else none

def hexValue? (c : Char) : Option Nat :=
  if '0' ≤ c ∧ c ≤ '9' then some (c.toNat - '0'.toNat)
  else if 'a' ≤ c ∧ c ≤ 'f' then some (c.toNat - 'a'.toNat + 10)
  else if 'A' ≤ c ∧ c ≤ 'F' then some (c.toNat - 'A'.toNat + 10)
  else none

def isDigit (c : Char) : Bool :=
  (digitValue? c).isSome

def digitsOnto? (seen : Nat) : List Char → Option Nat
  | [] => some seen
  | c :: cs => (digitValue? c).bind fun d => digitsOnto? (10 * seen + d) cs

def unsigned? (cs : List Char) : Option Nat :=
  if cs.isEmpty then none else digitsOnto? 0 cs

def inBase? (base : Nat) (cs : List Char) : Option Nat :=
  cs.foldlM (fun n c => do
    let d ← hexValue? c
    if d < base then some (base * n + d) else none) 0

def hexNat? (cs : List Char) : Option Nat :=
  if cs.isEmpty then none else inBase? 16 cs

def nat? : List Char → Option Nat
  | '+' :: cs => unsigned? cs
  | cs => unsigned? cs

def int? : List Char → Option Int
  | '+' :: cs => (unsigned? cs).map Int.ofNat
  | '-' :: cs => (unsigned? cs).map fun n => -Int.ofNat n
  | cs => (unsigned? cs).map Int.ofNat

def natUpTo? (limit : Nat) (cs : List Char) : Option Nat :=
  (nat? cs).filter (· ≤ limit)

def hex (width n : Nat) : List Char :=
  let digits := Nat.toDigits 16 n
  List.replicate (width - digits.length) '0' ++ digits

def padded (width n : Nat) : String :=
  let digits := Nat.toDigits 10 n
  String.ofList (List.replicate (width - digits.length) '0' ++ digits)

end BrokerFleet.Text
