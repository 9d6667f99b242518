import BrokerFleet.Generation.Name
import BrokerFleet.Proofs.Digest.SafeNumeral

/-!
What the names of generations tell of the hashes in them. The four bytes that begin a hash make one word, and a word has
one numeral, so generations of one base are named alike only if their hashes begin alike.
-/

namespace BrokerFleet.Generation

open Digest SafeNumeral

variable {bytes others : List UInt8} {text text' : String} {salt salt' : Option UInt32}

def saltedBytes (text : String) (salt : Option UInt32) : List UInt8 :=
  Text.Utf8.encode text ++ (salt.map littleEndian).getD []

def hashStart (text : String) (salt : Option UInt32) : List UInt8 :=
  (Sha256.hash (saltedBytes text salt)).take 4

/-! ### Bytes and words -/

theorem toNat_or_byte {low shift : UInt32} {n bits : Nat} (byte : UInt8) (holds : low.toNat = n)
    (place : shift.toNat = bits) (below : n < 2 ^ bits) (fits : bits ≤ 24) :
    (low ||| byte.toUInt32 <<< shift).toNat = n + byte.toNat * 2 ^ bits := by
  have shifted : shift.toNat % 32 = bits := by omega
  have inside : byte.toNat * 2 ^ bits < 2 ^ 32 := calc
    byte.toNat * 2 ^ bits < 2 ^ 8 * 2 ^ bits := Nat.mul_lt_mul_of_pos_right byte.toNat_lt (by positivity)
    _ = 2 ^ (8 + bits) := (Nat.pow_add 2 8 _).symm
    _ ≤ 2 ^ 32 := Nat.pow_le_pow_right (by decide) (by omega)
  have moved : (byte.toUInt32 <<< shift).toNat = byte.toNat <<< bits := by
    rw [UInt32.toNat_shiftLeft, UInt8.toNat_toUInt32, shifted, Nat.shiftLeft_eq]
    exact Nat.mod_eq_of_lt inside
  calc (low ||| byte.toUInt32 <<< shift).toNat
    _ = n ||| byte.toNat <<< bits := by rw [UInt32.toNat_or, holds, moved]
    _ = byte.toNat <<< bits ||| n := Nat.or_comm _ _
    _ = byte.toNat <<< bits + n := (Nat.shiftLeft_add_eq_or_of_lt below _).symm
    _ = n + byte.toNat * 2 ^ bits := by rw [Nat.shiftLeft_eq, Nat.add_comm]

theorem toNat_ofLittleEndian (a b c d : UInt8) (rest : List UInt8) :
    (ofLittleEndian (a :: b :: c :: d :: rest)).toNat =
      a.toNat + b.toNat * 2 ^ 8 + c.toNat * 2 ^ 16 + d.toNat * 2 ^ 24 := by
  have ha := a.toNat_lt
  have hb := b.toNat_lt
  have hc := c.toNat_lt
  have two := toNat_or_byte b (UInt8.toNat_toUInt32 a) (show UInt32.toNat 8 = 8 from rfl) ha (by decide)
  have three := toNat_or_byte c two (show UInt32.toNat 16 = 16 from rfl) (by omega) (by decide)
  exact toNat_or_byte d three (show UInt32.toNat 24 = 24 from rfl) (by omega) (by decide)

theorem eq_four_cons (enough : 4 ≤ bytes.length) : ∃ a b c d rest, bytes = a :: b :: c :: d :: rest := by
  match bytes, enough with
  | a :: b :: c :: d :: rest, _ => exact ⟨a, b, c, d, rest, rfl⟩

theorem ofLittleEndian_inj (enough : 4 ≤ bytes.length) (enough' : 4 ≤ others.length) :
    ofLittleEndian bytes = ofLittleEndian others ↔ bytes.take 4 = others.take 4 := by
  obtain ⟨a, b, c, d, rest, rfl⟩ := eq_four_cons enough
  obtain ⟨a', b', c', d', rest', rfl⟩ := eq_four_cons enough'
  constructor
  · intro same
    have sums := congrArg UInt32.toNat same
    rw [toNat_ofLittleEndian, toNat_ofLittleEndian] at sums
    have := a.toNat_lt
    have := a'.toNat_lt
    have := b.toNat_lt
    have := b'.toNat_lt
    have := c.toNat_lt
    have := c'.toNat_lt
    have first : a = a' := UInt8.toNat_inj.mp (by omega)
    have second : b = b' := UInt8.toNat_inj.mp (by omega)
    have third : c = c' := UInt8.toNat_inj.mp (by omega)
    have fourth : d = d' := UInt8.toNat_inj.mp (by omega)
    rw [first, second, third, fourth]
    rfl
  · intro same
    have heads : [a, b, c, d] = [a', b', c', d'] := same
    cases heads
    rfl

/-! ### Hashes and names -/

theorem length_hash (message : List UInt8) : (Sha256.hash message).length = 32 := by
  unfold Sha256.hash
  dsimp only
  simp [Sha256.bigEndian]

theorem saltedHash_inj :
    saltedHash text salt = saltedHash text' salt' ↔ hashStart text salt = hashStart text' salt' := by
  have enough : ∀ message, 4 ≤ (Sha256.hash message).length := fun message => by
    rw [length_hash]
    decide
  exact (encode_inj _ _).trans (ofLittleEndian_inj (enough _) (enough _))

/-- A hash is a numeral of at most seven characters of the alphabet, with a zero in front only if it stands for zero, and
is read back as the number it stands for; no other numeral is. So hashes are the same only of the same beginning, and
names that are tried for generations of one base are too. -/
theorem hashes_tell_words_apart :
    (∀ v : UInt32, (∀ c ∈ (encode v).toList, c ∈ alphabet) ∧ 1 ≤ (encode v).length ∧ (encode v).length ≤ 7 ∧
      ((encode v).toList.head? = some 'b' ↔ v = 0) ∧ value (encode v) = v.toNat) ∧
    (alphabet.length = 27 ∧ alphabet.Nodup) ∧
    (∀ s v, s = encode v ↔ IsNumeral s ∧ value s = v.toNat) ∧
    (∀ v w, encode v = encode w ↔ v = w) ∧
    (∀ text salt text' salt', saltedHash text salt = saltedHash text' salt' ↔
      hashStart text salt = hashStart text' salt') ∧
    ∀ base text attempt text' attempt',
      candidate (saltedHash text) base attempt = candidate (saltedHash text') base attempt' ↔
        hashStart text (saltOf attempt) = hashStart text' (saltOf attempt') := by
  refine ⟨fun v => ?_, ⟨alphabet_length, alphabet_nodup⟩, eq_encode_iff, encode_inj,
    fun text salt text' salt' => saltedHash_inj, fun base text attempt text' attempt' => ?_⟩
  · obtain ⟨filled, short⟩ := length_encode v
    exact ⟨fun c member => mem_alphabet_of_encode member, filled, short, encode_head_iff v, value_encode v⟩
  · unfold candidate
    rw [String.append_right_inj, saltedHash_inj]

/-- The greatest word takes all seven characters. -/
theorem greatest_word_encoded : encode 4294967295 = "pdlz8r4" ∧ 'z' ∈ (encode 4294967295).toList ∧ 'z' ∈ alphabet ∧
    (encode 4294967295).length ≤ 7 ∧ encode 4294967295 ≠ encode 4294967294 := by
  obtain ⟨numerals, -, unique, apart, -, -⟩ := hashes_tell_words_apart
  have digits : "pdlz8r4".toList ⊆ alphabet := by decide +kernel
  have numeral : IsNumeral "pdlz8r4" := ⟨fun _ member => digits member, by decide, by decide⟩
  have read : "pdlz8r4" = encode 4294967295 := (unique _ _).mpr ⟨numeral, by decide +kernel⟩
  have member : 'z' ∈ (encode 4294967295).toList := by
    rw [← read]
    decide
  obtain ⟨inside, -, short, -, -⟩ := numerals 4294967295
  exact ⟨read.symm, member, inside _ member, short, mt (apart _ _).mp (by decide)⟩

end BrokerFleet.Generation
