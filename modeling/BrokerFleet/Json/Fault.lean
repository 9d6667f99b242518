import BrokerFleet.Text.Utf8

/-!
Why a text is no JSON, and where: the line, and how many bytes of it were read.
-/

namespace BrokerFleet.Json

inductive Cause where
  | endInValue
  | endInText
  | endInList
  | endInObject
  | noValue
  | badWord
  | badNumber
  | hugeNumber
  | badEscape
  | loneSurrogate
  | noSurrogate
  | controlCharacter
  | noColon
  | noListComma
  | noObjectComma
  | trailingComma
  | noName
  | tooDeep
  | trailingText
  deriving DecidableEq, Repr, Inhabited

def Cause.message : Cause → String
  | .endInValue => "EOF while parsing a value"
  | .endInText => "EOF while parsing a string"
  | .endInList => "EOF while parsing a list"
  | .endInObject => "EOF while parsing an object"
  | .noValue => "expected value"
  | .badWord => "expected ident"
  | .badNumber => "invalid number"
  | .hugeNumber => "number out of range"
  | .badEscape => "invalid escape"
  | .loneSurrogate => "lone leading surrogate in hex escape"
  | .noSurrogate => "unexpected end of hex escape"
  | .controlCharacter => "control character (\\u0000-\\u001F) found while parsing a string"
  | .noColon => "expected `:`"
  | .noListComma => "expected `,` or `]`"
  | .noObjectComma => "expected `,` or `\x7d`"
  | .trailingComma => "trailing comma"
  | .noName => "key must be a string"
  | .tooDeep => "recursion limit exceeded"
  | .trailingText => "trailing characters"

structure Fault where
  cause : Cause
  rest : List Char
  seen : Nat
  deriving DecidableEq, Repr, Inhabited

namespace Fault

def offset (text : String) (f : Fault) : Nat :=
  text.utf8ByteSize - ((String.ofList f.rest).utf8ByteSize - f.seen)

def lineColumn (bytes : List UInt8) : Nat × Nat :=
  (bytes.count 0x0A + 1, (bytes.reverse.takeWhile (· != 0x0A)).length)

def message (text : String) (f : Fault) : String :=
  let (line, column) := lineColumn ((Text.Utf8.encode text).take (f.offset text))
  f.cause.message ++ " at line " ++ toString line ++ " column " ++ toString column

end Fault

end BrokerFleet.Json
