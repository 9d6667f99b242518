import BrokerFleet.Json.Printer
import BrokerFleet.Text.Split

/-!
YAML text of JSON values, in block style. A text stands without quotation marks where nothing else can be
read in its place; a text of several lines stands below its name, line by line.
-/

namespace BrokerFleet.Yaml

def reservedWords : List String :=
  ["", "~", "null", "true", "false", "y", "n", "yes", "no", "on", "off"]

def looksNumeric : List Char → Bool
  | c :: _ => Text.isDigit c || c = '-' || c = '+' || c = '.'
  | [] => false

def openers : List Char :=
  ['#', ',', '[', ']', Char.ofNat 0x7B, Char.ofNat 0x7D, '&', '*', '!', '|', '>', '\'', Char.ofNat 0x22, '%',
    '@', '`', '?', ':', '-', ' ']

def hasMark : List Char → Bool
  | [] => false
  | [c] => c = ':'
  | c :: d :: rest => (c = ':' && d = ' ') || (c = ' ' && d = '#') || hasMark (d :: rest)

def isShown (c : Char) : Bool :=
  c.toNat = 0x0A || (0x20 ≤ c.toNat && c.toNat ≠ 0x7F)

def isPlain (s : String) : Bool :=
  let cs := s.toList
  !reservedWords.contains (Text.asciiLower s) && !looksNumeric cs &&
    !(cs.head?.any openers.contains) && !(cs.getLast?.any (· == ' ')) && !hasMark cs

def singleQuoted (s : String) : String :=
  String.ofList ('\'' :: s.toList.flatMap (fun c => if c = '\'' then [c, c] else [c]) ++ ['\''])

def scalarText (s : String) : String :=
  if !s.toList.all fun c => isShown c && c != '\n' then String.ofList (Json.quoted s)
  else if isPlain s then s
  else singleQuoted s

/-- A text that can stand line by line: lines do not end in blanks, and the first does not begin with one. -/
def isBlock (s : String) : Bool :=
  let lines := Text.splitAll '\n' s.toList
  s.toList.all isShown && s.toList.contains '\n' &&
    !(s.toList.head?.any fun c => c == ' ' || c == '\n') && !(s.toList.getLast?.any (· == '\n')) &&
    lines.all fun line => !(line.getLast?.any (· == ' '))

def indent (line : String) : String :=
  if line.isEmpty then line else "  " ++ line

inductive Form where
  | inline (text : String)
  | below (head : String) (lines : List String)
  | level (lines : List String)
  deriving Repr, Inhabited

def ofText (s : String) : Form :=
  if isBlock s then .below "|-" ((Text.splitAll '\n' s.toList).map String.ofList)
  else .inline (scalarText s)

def memberLines (name : String) : Form → List String
  | .inline text => [scalarText name ++ ": " ++ text]
  | .below "" lines => (scalarText name ++ ":") :: lines.map indent
  | .below head lines => (scalarText name ++ ": " ++ head) :: lines.map indent
  | .level lines => (scalarText name ++ ":") :: lines

def dashed : List String → List String
  | [] => ["-"]
  | line :: lines => ("- " ++ line) :: lines.map indent

def itemLines : Form → List String
  | .inline text => dashed [text]
  | .below "" lines | .level lines => dashed lines
  | .below head lines => ("- " ++ head) :: lines.map indent

mutual

def form : Json → Form
  | .string s => ofText s
  | .array [] => .inline "[]"
  | .array items => .level (ofItems items)
  | .object [] => .inline (String.ofList [Char.ofNat 0x7B, Char.ofNat 0x7D])
  | .object members => .below "" (ofMembers members)
  | other => .inline other.compact

def ofItems : List Json → List String
  | [] => []
  | item :: rest => itemLines (form item) ++ ofItems rest

def ofMembers : List (String × Json) → List String
  | [] => []
  | (name, value) :: rest => memberLines name (form value) ++ ofMembers rest

end

def document (value : Json) : String :=
  let lines := match form value with
    | .inline text => [text]
    | .below "" lines | .level lines => lines
    | .below head lines => head :: lines.map indent
  String.join (("---" :: lines).map (· ++ "\n"))

end BrokerFleet.Yaml
