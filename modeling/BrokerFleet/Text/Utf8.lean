/-!
UTF-8. `segments` reads any bytes: the characters of the well-formed stretches, and one mark for
each maximal ill-formed stretch. Strict and lenient reading are two views of it.
-/

namespace BrokerFleet.Text.Utf8

/-- How a character may start: the number of further bytes, the bits that the first byte gives,
and the range of the second byte. -/
structure Lead where
  length : Nat
  bits : Nat
  secondLow : Nat
  secondHigh : Nat

def lead? (byte : UInt8) : Option Lead :=
  let n := byte.toNat
  if n < 0xC2 then none
  else if n < 0xE0 then some ⟨1, n - 0xC0, 0x80, 0xBF⟩
  else if n == 0xE0 then some ⟨2, 0, 0xA0, 0xBF⟩
  else if n == 0xED then some ⟨2, 13, 0x80, 0x9F⟩
  else if n < 0xF0 then some ⟨2, n - 0xE0, 0x80, 0xBF⟩
  else if n == 0xF0 then some ⟨3, 0, 0x90, 0xBF⟩
  else if n < 0xF4 then some ⟨3, n - 0xF0, 0x80, 0xBF⟩
  else if n == 0xF4 then some ⟨3, 4, 0x80, 0x8F⟩
  else none

/-- Where the reader stands inside a character: further bytes due, bits so far, and the range of
the next byte. -/
abbrev Partial := Lead

def segmentsFrom : Option Partial → List UInt8 → List (Option Char)
  | none, [] => []
  | some _, [] => [none]
  | none, byte :: rest =>
    if byte.toNat < 0x80 then some (Char.ofNat byte.toNat) :: segmentsFrom none rest
    else match lead? byte with
      | some lead => segmentsFrom (some lead) rest
      | none => none :: segmentsFrom none rest
  | some due, byte :: rest =>
    let n := byte.toNat
    if due.secondLow ≤ n ∧ n ≤ due.secondHigh then
      let bits := due.bits * 64 + (n - 0x80)
      if due.length ≤ 1 then some (Char.ofNat bits) :: segmentsFrom none rest
      else segmentsFrom (some ⟨due.length - 1, bits, 0x80, 0xBF⟩) rest
    else if n < 0x80 then none :: some (Char.ofNat n) :: segmentsFrom none rest
    else match lead? byte with
      | some lead => none :: segmentsFrom (some lead) rest
      | none => none :: none :: segmentsFrom none rest

def segments (bytes : List UInt8) : List (Option Char) :=
  segmentsFrom none bytes

def decode? (bytes : List UInt8) : Option String :=
  ((segments bytes).mapM id).map String.ofList

def decodeLossy (bytes : List UInt8) : String :=
  String.ofList ((segments bytes).map fun c => c.getD (Char.ofNat 0xFFFD))

def encode (s : String) : List UInt8 :=
  s.toUTF8.toList

end BrokerFleet.Text.Utf8
