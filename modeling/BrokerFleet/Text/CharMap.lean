import BrokerFleet.Text.CharSet

/-!
Texts that stand for characters, written as text: `b2>32,33` says what stands for a character and for the ones that
follow it, `41-5a>61` moves a whole run, `100-12e/2>101` every second one of it. A dot joins the code points of a
text.
-/

namespace BrokerFleet.Text

/-- What stands for the characters of an entry: characters at the same distances from a first one, or texts. -/
inductive CharMap.Image where
  | shifted (first : Nat)
  | listed (texts : Array (List Char))
  deriving Inhabited

structure CharMap.Entry where
  first : Nat
  last : Nat
  step : Nat
  image : CharMap.Image
  deriving Inhabited

def CharMap.Entry.text? (entry : CharMap.Entry) (n : Nat) : Option (List Char) :=
  if entry.last < n || (n - entry.first) % entry.step != 0 then none
  else match entry.image with
    | .shifted first => some [Char.ofNat (first + (n - entry.first))]
    | .listed texts => texts[n - entry.first]?

def CharMap.joined? (cs : List Char) : Option (List Char) :=
  (splitAll '.' cs).mapM fun part => (hexNat? part).map Char.ofNat

def CharMap.Entry.ofText? (cs : List Char) : Option CharMap.Entry := do
  let (place, image) ← splitFirst? '>' cs
  match splitFirst? '-' place with
  | none =>
    let first ← hexNat? place
    let texts ← (splitAll ',' image).mapM CharMap.joined?
    some ⟨first, first + texts.length - 1, 1, .listed texts.toArray⟩
  | some (first, rest) =>
    let (last, step) ← match splitFirst? '/' rest with
      | some (last, step) => (hexNat? step).map (last, ·)
      | none => some (rest, 1)
    some ⟨← hexNat? first, ← hexNat? last, step, .shifted (← hexNat? image)⟩

structure CharMap where
  entries : Array CharMap.Entry
  deriving Inhabited

def CharMap.ofText (table : String) : CharMap :=
  ⟨((Text.entries table).filterMap CharMap.Entry.ofText?).toArray⟩

def CharMap.text? (map : CharMap) (c : Char) : Option (List Char) :=
  (lastUpTo? CharMap.Entry.first map.entries c.toNat).bind (·.text? c.toNat)

end BrokerFleet.Text
