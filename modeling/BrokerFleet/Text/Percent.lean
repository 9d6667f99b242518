import BrokerFleet.Text.Numeral
import BrokerFleet.Text.Utf8

/-!
Bytes that may not stand by themselves, written as `%` and two hexadecimal digits.
-/

namespace BrokerFleet.Text.Percent

def ofByte (b : UInt8) : List Char :=
  '%' :: (hex 2 b.toNat).map Char.toUpper

def encode (plain : UInt8 → Bool) (cs : List Char) : List Char :=
  (Utf8.encode (String.ofList cs)).flatMap fun b =>
    if plain b then [Char.ofNat b.toNat] else ofByte b

/-- The bytes that a text stands for; `%` without two digits stands for itself. -/
def bytes : List Char → List UInt8
  | [] => []
  | '%' :: a :: b :: rest =>
    match hexValue? a, hexValue? b with
    | some high, some low => UInt8.ofNat (16 * high + low) :: bytes rest
    | _, _ => 0x25 :: bytes (a :: b :: rest)
  | c :: rest => Utf8.encode (String.ofList [c]) ++ bytes rest

end BrokerFleet.Text.Percent
