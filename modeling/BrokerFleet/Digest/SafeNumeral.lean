/-!
Base-27 numerals over letters and digits that spell no words and are not easily confused: no
vowels, no `y`, none of `0`, `1` and `3`.
-/

namespace BrokerFleet.Digest.SafeNumeral

def alphabet : List Char :=
  "bcdfghjklmnpqrstvwxz2456789".toList

def base : Nat := 27

def digit (n : Nat) : Char :=
  alphabet.getD n 'b'

def digitsOnto (n : Nat) (after : List Char) : List Char :=
  if n < base then digit n :: after
  else digitsOnto (n / base) (digit (n % base) :: after)
termination_by n
decreasing_by exact Nat.div_lt_self (by simp only [base] at *; omega) (by decide)

def encode (value : UInt32) : String :=
  String.ofList (digitsOnto value.toNat [])

end BrokerFleet.Digest.SafeNumeral
