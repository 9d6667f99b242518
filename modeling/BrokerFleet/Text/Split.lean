/-!
Cutting text at a separator and at blanks. Everything works on lists of characters; the
`String` versions only convert.
-/

namespace BrokerFleet.Text

variable {α : Type} [BEq α]

def splitFirst? (sep : α) : List α → Option (List α × List α)
  | [] => none
  | x :: xs =>
    if x == sep then some ([], xs)
    else (splitFirst? sep xs).map fun (before, after) => (x :: before, after)

def splitLast? (sep : α) : List α → Option (List α × List α)
  | [] => none
  | x :: xs =>
    match splitLast? sep xs with
    | some (before, after) => some (x :: before, after)
    | none => if x == sep then some ([], xs) else none

/-- The text after the last separator, all of it if there is none. -/
def afterLast (sep : α) (xs : List α) : List α :=
  match splitLast? sep xs with
  | some (_, after) => after
  | none => xs

def beforeFirst (sep : α) (xs : List α) : List α :=
  xs.takeWhile (· != sep)

def splitAll (sep : α) : List α → List (List α)
  | [] => [[]]
  | x :: xs =>
    if x == sep then [] :: splitAll sep xs
    else match splitAll sep xs with
      | [] => [[x]]
      | part :: parts => (x :: part) :: parts

def occurs (part : List α) : List α → Bool
  | [] => part.isEmpty
  | x :: xs => part.isPrefixOf (x :: xs) || occurs part xs

def isBlank (c : Char) : Bool :=
  let n := c.toNat
  (9 ≤ n && n ≤ 13) || n == 0x20 || n == 0x85 || n == 0xA0 || n == 0x1680 ||
    (0x2000 ≤ n && n ≤ 0x200A) || n == 0x2028 || n == 0x2029 || n == 0x202F ||
    n == 0x205F || n == 0x3000

def trimBlanks (cs : List Char) : List Char :=
  ((cs.dropWhile isBlank).reverse.dropWhile isBlank).reverse

def asciiLower (s : String) : String :=
  String.ofList (s.toList.map Char.toLower)

def eqIgnoringCase (a b : String) : Bool :=
  a.toList.map Char.toLower == b.toList.map Char.toLower

def isAsciiAlphanumeric (c : Char) : Bool :=
  ('0' ≤ c && c ≤ '9') || ('a' ≤ c && c ≤ 'z') || ('A' ≤ c && c ≤ 'Z')

end BrokerFleet.Text
