import BrokerFleet.Text.Composition.Table

/-!
Texts that are read alike, brought to one form: every character is taken apart, marks are put in order, and what
can be one character is made one.
-/

namespace BrokerFleet.Text.Composition

/-! ### Syllables of Korean, which are made up of two or three letters by rule -/

def firstSyllable : Nat := 0xAC00
def firstInitial : Nat := 0x1100
def firstVowel : Nat := 0x1161

def noFinal : Nat := 0x11A7

def initials : Nat := 19
def vowels : Nat := 21
def finals : Nat := 28

def letters? (c : Char) : Option (List Char) :=
  let n := c.toNat - firstSyllable
  if c.toNat < firstSyllable || initials * vowels * finals ≤ n then none
  else
    let final := if n % finals = 0 then [] else [Char.ofNat (noFinal + n % finals)]
    some (Char.ofNat (firstInitial + n / finals / vowels) :: Char.ofNat (firstVowel + n / finals % vowels) :: final)

/-- The syllable of two letters, or of a syllable without a final letter and one. -/
def syllable? (a b : Char) : Option Char :=
  let initial := a.toNat - firstInitial
  let vowel := b.toNat - firstVowel
  let syllable := a.toNat - firstSyllable
  let final := b.toNat - noFinal
  if firstInitial ≤ a.toNat && initial < initials && firstVowel ≤ b.toNat && vowel < vowels then
    some (Char.ofNat (firstSyllable + (initial * vowels + vowel) * finals))
  else if firstSyllable ≤ a.toNat && syllable < initials * vowels * finals && syllable % finals = 0 &&
      noFinal < b.toNat && final < finals then
    some (Char.ofNat (a.toNat + final))
  else none

/-! ### Taking apart -/

def partsTo : (depth : Nat) → Char → List Char
  | 0, c => [c]
  | depth + 1, c =>
    match pairs.text? c with
    | some parts => parts.flatMap (partsTo depth)
    | none => [c]

def greatestDepth : Nat := 3

def parts (c : Char) : List Char :=
  match letters? c, apart.text? c with
  | some letters, _ => letters
  | none, some others => others
  | none, none => partsTo greatestDepth c

/-! ### Order -/

def classRuns : Array (Run × Nat) :=
  let all := classes.flatMap fun (number, table) => (runs table).map (·, number)
  (all.mergeSort fun a b => decide (a.1.first ≤ b.1.first)).toArray

def classOf (c : Char) : Nat :=
  match lastUpTo? (·.1.first) classRuns c.toNat with
  | some (run, number) => if c.toNat ≤ run.last then number else 0
  | none => 0

/-- Puts a character before a text in order, past the marks of lower classes. -/
def insert (c : Char) : List Char → List Char
  | [] => [c]
  | d :: rest => if classOf d != 0 && classOf d < classOf c then d :: insert c rest else c :: d :: rest

/-- Marks in the order of their classes; those of one class stay as they are. -/
def ordered (cs : List Char) : List Char :=
  cs.foldr insert []

theorem insert_perm (c : Char) (cs : List Char) : (insert c cs).Perm (c :: cs) := by
  induction cs with
  | nil => exact List.Perm.refl _
  | cons d rest ih =>
    rw [insert]
    split
    · exact (ih.cons d).trans (List.Perm.swap c d rest)
    · exact List.Perm.refl _

theorem ordered_perm (cs : List Char) : (ordered cs).Perm cs := by
  induction cs with
  | nil => exact List.Perm.refl _
  | cons c rest ih => exact (insert_perm c (ordered rest)).trans (ih.cons c)

/-! ### Putting together -/

def pairKey (a b : Char) : Nat :=
  0x110000 * a.toNat + b.toNat

def composites : Array (Nat × Char) :=
  let ofEntry (entry : CharMap.Entry) : List (Nat × Char) :=
    ((List.range (entry.last + 1 - entry.first)).map (entry.first + ·)).filterMap fun n =>
      match entry.text? n with
      | some [a, b] => some (pairKey a b, Char.ofNat n)
      | _ => none
  ((pairs.entries.toList.flatMap ofEntry).mergeSort fun a b => decide (a.1 ≤ b.1)).toArray

def composite? (a b : Char) : Option Char :=
  match syllable? a b, lastUpTo? (·.1) composites (pairKey a b) with
  | some syllable, _ => some syllable
  | none, some (key, c) => if key = pairKey a b then some c else none
  | none, none => none

/-- A text that is being put together, in reverse: what is done, the last character that may bear marks, and the
marks after it. -/
structure State where
  before : List Char
  bearer : Option Char
  marks : List Char

/-- Whether a character reaches the bearer: no mark of its class or of a higher one stands between. -/
def State.reaches (s : State) (c : Char) : Bool :=
  match s.marks with
  | [] => true
  | mark :: _ => classOf mark < classOf c

def State.step (s : State) (c : Char) : State :=
  let joined := (s.bearer.filter fun _ => s.reaches c).bind (composite? · c)
  match s.bearer, joined with
  | _, some whole => { s with bearer := some whole }
  | some bearer, none =>
    if classOf c = 0 then ⟨s.marks ++ bearer :: s.before, some c, []⟩
    else { s with marks := c :: s.marks }
  | none, none => if classOf c = 0 then { s with bearer := some c } else { s with before := c :: s.before }

def State.text (s : State) : List Char :=
  (s.marks ++ s.bearer.toList ++ s.before).reverse

def composed (cs : List Char) : List Char :=
  ((ordered (cs.flatMap parts)).foldl State.step ⟨[], none, []⟩).text

end BrokerFleet.Text.Composition
