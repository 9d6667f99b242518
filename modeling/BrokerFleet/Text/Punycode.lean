import BrokerFleet.Text.Numeral

/-!
Punycode, which writes a text in ASCII. First come the characters that are ASCII, then, in rising order of the
others, how far each is from the one before, counted in the places where it could stand. Reading puts each character
back into its place.
-/

namespace BrokerFleet.Text.Punycode

def digit (n : Nat) : Char :=
  Char.ofNat (if n < 26 then n + 0x61 else n - 26 + 0x30)

/-- Divides a distance until it is small, and says what the next bias is. -/
def damped (bias distance : Nat) : Nat :=
  if 455 < distance then damped (bias + 36) (distance / 35)
  else bias + 36 * distance / (distance + 38)
termination_by distance
decreasing_by exact Nat.div_lt_self (by omega) (by omega)

def adapt (distance places : Nat) (first : Bool) : Nat :=
  let halved := if first then distance / 700 else distance / 2
  damped 0 (halved + halved / places)

def threshold (bias place : Nat) : Nat :=
  Nat.min 26 (Nat.max 1 (place - bias))

theorem threshold_pos (bias place : Nat) : 0 < threshold bias place := by
  simp only [threshold, Nat.min_def, Nat.max_def]
  split <;> split <;> omega

/-- A number whose digits have weights that depend on the bias; `place` is 36 for the first digit. -/
def number (bias place n : Nat) : List Char :=
  let least := threshold bias place
  if n < least then [digit n]
  else
    let rest := n - least
    let base := 36 - least
    digit (least + rest % base) :: number bias (place + 36) (rest / base)
termination_by n
decreasing_by
  have positive := threshold_pos bias place
  exact Nat.lt_of_le_of_lt (Nat.div_le_self _ _) (Nat.sub_lt (by omega) positive)

/-- What is known while the text is written: the distance so far, the bias, the characters that stand, whether none
but ASCII does yet, and the text in reverse. -/
structure State where
  distance : Nat
  bias : Nat
  places : Nat
  first : Bool
  written : List Char

def State.step (next : Nat) (s : State) (c : Char) : State :=
  if c.toNat < next then { s with distance := s.distance + 1 }
  else if c.toNat = next then {
    distance := 0
    bias := adapt s.distance (s.places + 1) s.first
    places := s.places + 1
    first := false
    written := (number s.bias 36 s.distance).reverse ++ s.written }
  else s

/-- Writes the places of all characters that are not ASCII, in rising order; those below `least` are done. -/
def State.rounds (text : List Char) : (least : Nat) → List Nat → State → State
  | _, [], s => s
  | least, next :: rest, s =>
    let far := { s with distance := s.distance + (next - least) * (s.places + 1) }
    let done := text.foldl (State.step next) far
    State.rounds text (next + 1) rest { done with distance := done.distance + 1 }

def isAscii (c : Char) : Bool :=
  c.toNat < 0x80

def others (text : List Char) : List Nat :=
  ((text.filter fun c => !isAscii c).map Char.toNat).eraseDups.mergeSort fun a b => decide (a ≤ b)

def encode (text : List Char) : List Char :=
  let basic := text.filter isAscii
  let start : State := ⟨0, 72, basic.length, true, []⟩
  basic ++ (if basic.isEmpty then [] else ['-']) ++
    (State.rounds text 0x80 (others text) start).written.reverse

/-! ### Reading -/

def digitValue? (c : Char) : Option Nat :=
  if 'a' ≤ c ∧ c ≤ 'z' then some (c.toNat - 0x61)
  else if 'A' ≤ c ∧ c ≤ 'Z' then some (c.toNat - 0x41)
  else if '0' ≤ c ∧ c ≤ '9' then some (c.toNat - 0x30 + 26)
  else none

/-- Reads a number onto what its digits have come to, `weight` being the weight of the next one, and gives back what
follows it. -/
def number? (bias : Nat) : (place weight sum : Nat) → List Char → Option (Nat × List Char)
  | _, _, _, [] => none
  | place, weight, sum, c :: rest =>
    match digitValue? c with
    | none => none
    | some d =>
      let least := threshold bias place
      if d < least then some (sum + d * weight, rest)
      else number? bias (place + 36) (weight * (36 - least)) (sum + d * weight) rest

theorem number?_length {bias place weight sum n : Nat} {cs rest : List Char}
    (read : number? bias place weight sum cs = some (n, rest)) : rest.length < cs.length := by
  induction cs generalizing place weight sum with
  | nil => simp [number?] at read
  | cons c tail ih =>
    rw [number?] at read
    split at read
    · simp at read
    · dsimp only at read
      split at read
      · simp only [Option.some.injEq, Prod.mk.injEq] at read
        simp [← read.2]
      · exact Nat.lt_succ_of_lt (ih read)

def char? (n : Nat) : Option Char :=
  if n < 0xD800 || (0xDFFF < n && n < 0x110000) then some (Char.ofNat n) else none

/-- Puts the characters that are not ASCII into their places, counted from the last one and the place after it. -/
def inserted? (bias least place : Nat) (text : List Char) (code : List Char) : Option (List Char) :=
  if code.isEmpty then some text
  else
    match _read : number? bias 36 1 place code with
    | none => none
    | some (sum, rest) =>
      let places := text.length + 1
      match char? (least + sum / places) with
      | none => none
      | some c =>
        inserted? (adapt (sum - place) places (place == 0)) (least + sum / places) (sum % places + 1)
          (text.take (sum % places) ++ c :: text.drop (sum % places)) rest
termination_by code.length
decreasing_by exact number?_length _read

/-- The text that is written. The last hyphen, unless it is the first character, ends what is ASCII. -/
def decode? (code : List Char) : Option (List Char) :=
  match splitLast? '-' code with
  | some (c :: basic, rest) => if (c :: basic).all isAscii then inserted? 72 0x80 0 (c :: basic) rest else none
  | _ => inserted? 72 0x80 0 [] code

end BrokerFleet.Text.Punycode
