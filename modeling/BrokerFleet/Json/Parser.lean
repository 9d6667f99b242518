import BrokerFleet.Json.Fault
import BrokerFleet.Json.Value
import BrokerFleet.Text.Numeral

/-!
Reading JSON text. Objects come out with their members in the order of their names, the last of
several members of one name counting; nesting beyond `depthLimit` levels is refused.

A whole number of 64 bits is exact. Any other number is a binary fraction, read in two roundings:
the leading digits that fit into 64 bits, then the power of ten that scales them.
-/

namespace BrokerFleet.Json

open Decimal

def depthLimit : Nat := 127

namespace Reading

def isSpace (c : Char) : Bool :=
  c.toNat = 0x20 || c.toNat = 0x0A || c.toNat = 0x0D || c.toNat = 0x09

def skipSpaces (cs : List Char) : List Char :=
  cs.dropWhile isSpace

def ended {α : Type} (cause : Cause) : Except Fault (α × List Char) :=
  .error ⟨cause, [], 0⟩

def before {α : Type} (cause : Cause) (rest : List Char) : Except Fault (α × List Char) :=
  .error ⟨cause, rest, 0⟩

def facing {α : Type} (cause : Cause) (rest : List Char) : Except Fault (α × List Char) :=
  .error ⟨cause, rest, 1⟩

def fourHex? : List Char → Option (Nat × List Char)
  | a :: b :: c :: d :: rest => do
    let n := (((← Text.hexValue? a) * 16 + (← Text.hexValue? b)) * 16 + (← Text.hexValue? c)) * 16
      + (← Text.hexValue? d)
    some (n, rest)
  | _ => none

def codeUnit (cs : List Char) : Except Fault (Nat × List Char) :=
  match fourHex? cs with
  | some unit => .ok unit
  | none =>
    if (String.ofList cs).utf8ByteSize < 4 then ended .endInText else .error ⟨.badEscape, cs, 4⟩

def lowSurrogate : List Char → Except Fault (Nat × List Char)
  | [] | ['\\'] => ended .endInText
  | '\\' :: 'u' :: rest => do
    let (low, rest) ← codeUnit rest
    if 0xDC00 ≤ low ∧ low < 0xE000 then .ok (low, rest) else before .loneSurrogate rest
  | '\\' :: rest => facing .noSurrogate rest
  | rest => facing .noSurrogate rest

def unicodeEscape (cs : List Char) : Except Fault (Char × List Char) := do
  let (high, rest) ← codeUnit cs
  if 0xD800 ≤ high ∧ high < 0xDC00 then
    let (low, rest) ← lowSurrogate rest
    .ok (Char.ofNat (0x10000 + (high - 0xD800) * 0x400 + (low - 0xDC00)), rest)
  else if 0xDC00 ≤ high ∧ high < 0xE000 then before .loneSurrogate rest
  else .ok (Char.ofNat high, rest)

def escape : List Char → Except Fault (Char × List Char)
  | 'b' :: rest => .ok (Char.ofNat 8, rest)
  | 't' :: rest => .ok (Char.ofNat 9, rest)
  | 'n' :: rest => .ok (Char.ofNat 10, rest)
  | 'f' :: rest => .ok (Char.ofNat 12, rest)
  | 'r' :: rest => .ok (Char.ofNat 13, rest)
  | '/' :: rest => .ok ('/', rest)
  | '\\' :: rest => .ok ('\\', rest)
  | 'u' :: rest => unicodeEscape rest
  | c :: rest => if c.toNat = 0x22 then .ok (c, rest) else facing .badEscape (c :: rest)
  | [] => ended .endInText

def stringBody : (fuel : Nat) → List Char → Except Fault (List Char × List Char)
  | 0, _ | _, [] => ended .endInText
  | fuel + 1, c :: rest =>
    if c.toNat = 0x22 then .ok ([], rest)
    else if c.toNat < 0x20 then facing .controlCharacter (c :: rest)
    else if c = '\\' then do
      let (d, rest) ← escape rest
      let (text, rest) ← stringBody fuel rest
      .ok (d :: text, rest)
    else do
      let (text, rest) ← stringBody fuel rest
      .ok (c :: text, rest)

def leadingDigits (seen : Nat) : List Char → Nat × List Char
  | [] => (seen, [])
  | c :: cs =>
    let next := 10 * seen + (c.toNat - '0'.toNat)
    if next < UInt64.size then leadingDigits next cs else (seen, c :: cs)

def scaleDown? : (fuel : Nat) → Binary64 → Nat → Option Binary64
  | 0, x, _ => some x
  | fuel + 1, x, power =>
    if power ≤ 308 then x.overPowerOfTen? power
    else if x.mantissa = 0 then some x
    else do scaleDown? fuel (← x.overPowerOfTen? 308) (power - 308)

/-- `significand * 10 ^ power` in two roundings; a number beyond the greatest one is refused. -/
def scaled? (negative : Bool) (significand : Nat) (power : Int) : Option Binary64 := do
  let x ← Binary64.round? negative significand 1
  if 0 ≤ power then
    if power ≤ 308 then x.timesPowerOfTen? power.toNat
    else if x.mantissa = 0 then some x
    else none
  else scaleDown? 4 x (-power).toNat

structure NumberText where
  negative : Bool
  whole : List Char
  fraction : Option (List Char)
  exponent : Option (Bool × List Char)

def someDigits (cs : List Char) : Except Fault (List Char × List Char) :=
  match cs with
  | [] => ended .endInValue
  | c :: _ =>
    if Text.isDigit c then .ok (cs.takeWhile Text.isDigit, cs.dropWhile Text.isDigit)
    else facing .badNumber cs

/-- The digits in front of the point; a leading zero stands alone. -/
def wholeDigits (cs : List Char) : Except Fault (List Char × List Char) :=
  match cs with
  | '0' :: c :: rest => if Text.isDigit c then facing .badNumber (c :: rest) else .ok (['0'], c :: rest)
  | _ => someDigits cs

def fractionDigits : List Char → Except Fault (Option (List Char) × List Char)
  | '.' :: rest => (someDigits rest).map fun (digits, rest) => (some digits, rest)
  | rest => .ok (none, rest)

def exponentDigits (cs : List Char) : Except Fault (Option (Bool × List Char) × List Char) :=
  match cs with
  | [] => .ok (none, [])
  | c :: rest =>
    if c = 'e' ∨ c = 'E' then
      let (minus, rest) := match rest with
        | '+' :: more => (false, more)
        | '-' :: more => (true, more)
        | _ => (false, rest)
      (someDigits rest).map fun (digits, rest) => (some (minus, digits), rest)
    else .ok (none, cs)

/-- The grammar of numbers: no leading zero, and a digit wherever one may stand. -/
def numberText (cs : List Char) : Except Fault (NumberText × List Char) := do
  let (negative, cs) := match cs with
    | '-' :: rest => (true, rest)
    | _ => (false, cs)
  let (whole, rest) ← wholeDigits cs
  let (fraction, rest) ← fractionDigits rest
  let (exponent, rest) ← exponentDigits rest
  .ok (⟨negative, whole, fraction, exponent⟩, rest)

def exponentLimit : Nat := 2147483647

def beyondLimit (seen : Nat) : List Char → List Char
  | [] => []
  | c :: cs =>
    let next := 10 * seen + (c.toNat - '0'.toNat)
    if next ≤ exponentLimit then beyondLimit next cs else cs

def NumberText.value? (t : NumberText) : Option Json :=
  let (significand, beyond) := leadingDigits 0 t.whole
  match t.fraction, t.exponent with
  | none, none =>
    if beyond.isEmpty then
      if !t.negative then some (.int significand)
      else if significand ≠ 0 ∧ significand ≤ UInt64.size / 2 then some (.int (-(significand : Int)))
      else (Binary64.round? true significand 1).map .real
    else (scaled? t.negative significand beyond.length).map .real
  | _, _ =>
    let (significand, power) :=
      if beyond.isEmpty then
        let digits := t.fraction.getD []
        let (n, unread) := leadingDigits significand digits
        (n, -((digits.length - unread.length : Nat) : Int))
      else
        match leadingDigits significand (t.fraction.getD []) with
        | (n, unread) =>
          (n, (beyond.length : Int) - (((t.fraction.getD []).length - unread.length : Nat) : Int))
    match t.exponent with
    | none => (scaled? t.negative significand power).map .real
    | some (minus, digits) =>
      let shift : Int := (Text.digitsOnto? 0 digits).getD 0
      if shift > exponentLimit then
        if significand ≠ 0 ∧ !minus then none else some (.real (.zero t.negative))
      else
        (scaled? t.negative significand (power + if minus then -shift else shift)).map .real

def number (cs : List Char) : Except Fault (Json × List Char) := do
  let (text, rest) ← numberText cs
  match text.value? with
  | some value => .ok (value, rest)
  | none => before .hugeNumber (beyondLimit 0 ((text.exponent.map (·.2)).getD []) ++ rest)

def word (value : Json) : List Char → List Char → Except Fault (Json × List Char)
  | [], rest => .ok (value, rest)
  | _ :: _, [] => ended .endInValue
  | w :: ws, c :: rest => if w = c then word value ws rest else facing .badWord (c :: rest)

def openName : List Char → Except Fault (Unit × List Char)
  | [] => ended .endInValue
  | c :: rest =>
    if c.toNat = 0x22 then .ok ((), rest)
    else if c.toNat = 0x7D then facing .trailingComma (c :: rest)
    else facing .noName (c :: rest)

def colon (cs : List Char) : Except Fault (Unit × List Char) :=
  match skipSpaces cs with
  | ':' :: rest => .ok ((), rest)
  | [] => ended .endInObject
  | rest => facing .noColon rest

mutual

def value : (fuel : Nat) → (depth : Nat) → List Char → Except Fault (Json × List Char)
  | 0, _, _ => ended .endInValue
  | fuel + 1, depth, cs =>
    match skipSpaces cs with
    | [] => ended .endInValue
    | c :: rest =>
      if c = 'n' then word .null "ull".toList rest
      else if c = 't' then word (.bool true) "rue".toList rest
      else if c = 'f' then word (.bool false) "alse".toList rest
      else if c.toNat = 0x22 then
        (stringBody fuel rest).map fun (s, rest) => (.string (String.ofList s), rest)
      else if c = '[' then
        match depth with
        | 0 => facing .tooDeep (c :: rest)
        | depth + 1 =>
          match skipSpaces rest with
          | [] => ended .endInList
          | ']' :: rest => .ok (.array [], rest)
          | rest => (items fuel depth rest).map fun (items, rest) => (.array items, rest)
      else if c.toNat = 0x7B then
        match depth with
        | 0 => facing .tooDeep (c :: rest)
        | depth + 1 =>
          match skipSpaces rest with
          | [] => ended .endInObject
          | d :: more =>
            if d.toNat = 0x7D then .ok (.object [], more)
            else if d.toNat ≠ 0x22 then facing .noName (d :: more)
            else (members fuel depth more []).map fun (members, rest) => (.object members, rest)
      else if c = '-' ∨ Text.isDigit c then number (c :: rest)
      else facing .noValue (c :: rest)

def items : (fuel : Nat) → (depth : Nat) → List Char → Except Fault (List Json × List Char)
  | 0, _, _ => ended .endInList
  | fuel + 1, depth, cs => do
    let (item, rest) ← value fuel depth cs
    match skipSpaces rest with
    | [] => ended .endInList
    | ']' :: rest => .ok ([item], rest)
    | ',' :: rest =>
      match skipSpaces rest with
      | ']' :: rest => facing .trailingComma (']' :: rest)
      | rest =>
        let (others, rest) ← items fuel depth rest
        .ok (item :: others, rest)
    | rest => facing .noListComma rest

/-- Members up to the closing brace, put among those read before. The opening mark of the first name is
dropped already. -/
def members : (fuel : Nat) → (depth : Nat) → List Char → Members → Except Fault (Members × List Char)
  | 0, _, _, _ => ended .endInObject
  | fuel + 1, depth, cs, known => do
    let (name, rest) ← stringBody fuel cs
    let ((), rest) ← colon rest
    let (value, rest) ← value fuel depth rest
    let known := insert (String.ofList name) value known
    match skipSpaces rest with
    | [] => ended .endInObject
    | ',' :: rest =>
      let ((), rest) ← openName (skipSpaces rest)
      members fuel depth rest known
    | c :: rest => if c.toNat = 0x7D then .ok (known, rest) else facing .noObjectComma (c :: rest)

end

end Reading

open Reading

def parse (s : String) : Except Fault Json := do
  let cs := s.toList
  let (value, rest) ← value (2 * cs.length + 2) depthLimit cs
  match skipSpaces rest with
  | [] => return value
  | c :: rest => throw ⟨.trailingText, c :: rest, 1⟩

def parse? (s : String) : Option Json :=
  (parse s).toOption

def parseBytes? (bytes : List UInt8) : Option Json :=
  (Text.Utf8.decode? bytes).bind parse?

end BrokerFleet.Json
