import BrokerFleet.Text.Numeral

/-!
Numbers that are written down and read again. A numeral in decimal digits is read back as the number it was written
for, if that is within the limit, and a numeral of a fixed width takes as many characters as it is wide. Nothing but
numerals is read.
-/

namespace BrokerFleet.Text

variable {cs rest : List Char} {c : Char} {limit n m seen width : Nat}

def Spells (cs : List Char) (n : Nat) : Prop :=
  ∃ digits, (cs = digits ∨ cs = '+' :: digits) ∧ digits ≠ [] ∧ (∀ c ∈ digits, c.isDigit = true) ∧
    Nat.ofDigitChars 10 digits 0 = n

theorem digitValue?_of_isDigit (digit : c.isDigit = true) : digitValue? c = some (c.toNat - '0'.toNat) := by
  apply if_pos
  unfold Char.isDigit at digit
  rw [Bool.and_eq_true, decide_eq_true_eq, decide_eq_true_eq] at digit
  exact digit

theorem isDigit_of_digitValue? (read : digitValue? c = some n) : c.isDigit = true := by
  unfold digitValue? at read
  split at read
  · next between =>
    unfold Char.isDigit
    rw [Bool.and_eq_true, decide_eq_true_eq, decide_eq_true_eq]
    exact between
  · cases read

theorem digitsOnto?_eq (digits : ∀ c ∈ cs, c.isDigit = true) :
    digitsOnto? seen cs = some (Nat.ofDigitChars 10 cs seen) := by
  induction cs generalizing seen with
  | nil => rfl
  | cons c cs ih =>
      obtain ⟨first, others⟩ := List.forall_mem_cons.mp digits
      rw [digitsOnto?, digitValue?_of_isDigit first, Nat.ofDigitChars_cons]
      exact ih others

theorem isDigit_of_digitsOnto? (read : digitsOnto? seen cs = some n) : ∀ c ∈ cs, c.isDigit = true := by
  induction cs generalizing seen with
  | nil => exact List.forall_mem_nil _
  | cons c cs ih =>
      obtain ⟨_, first, others⟩ := Option.bind_eq_some_iff.mp read
      exact List.forall_mem_cons.mpr ⟨isDigit_of_digitValue? first, ih others⟩

theorem unsigned?_eq_some_iff : unsigned? cs = some n ↔
    cs ≠ [] ∧ (∀ c ∈ cs, c.isDigit = true) ∧ Nat.ofDigitChars 10 cs 0 = n := by
  unfold unsigned?
  split
  · next none => simp [List.isEmpty_iff.mp none]
  · next some =>
    have filled : cs ≠ [] := mt List.isEmpty_iff.mpr some
    constructor
    · intro read
      have digits := isDigit_of_digitsOnto? read
      rw [digitsOnto?_eq digits, Option.some.injEq] at read
      exact ⟨filled, digits, read⟩
    · rintro ⟨-, digits, stands⟩
      rw [digitsOnto?_eq digits, stands]

theorem nat?_eq_some_iff : nat? cs = some n ↔ Spells cs n := by
  unfold nat?
  split
  · next cs =>
    rw [unsigned?_eq_some_iff]
    constructor
    · exact fun spelled => ⟨cs, .inr rfl, spelled⟩
    · rintro ⟨digits, rfl | same, spelled⟩
      · exact absurd (spelled.2.1 '+' List.mem_cons_self) (by decide)
      · cases same
        exact spelled
  · next unmarked =>
    rw [unsigned?_eq_some_iff]
    constructor
    · exact fun spelled => ⟨cs, .inl rfl, spelled⟩
    · rintro ⟨digits, rfl | same, spelled⟩
      · exact spelled
      · exact absurd same (unmarked digits)

theorem isDigit_toDigits (n : Nat) : ∀ c ∈ Nat.toDigits 10 n, c.isDigit = true :=
  fun _ member => Nat.isDigit_of_mem_toDigits (by decide) (by decide) member

theorem ofDigitChars_zeros (zeros : Nat) : Nat.ofDigitChars 10 (List.replicate zeros '0') 0 = 0 := by
  induction zeros with
  | zero => rfl
  | succ zeros ih =>
      rw [List.replicate_succ, Nat.ofDigitChars_cons]
      exact ih

theorem unsigned?_zeros (zeros n : Nat) : unsigned? (List.replicate zeros '0' ++ Nat.toDigits 10 n) = some n := by
  refine unsigned?_eq_some_iff.mpr ⟨List.append_ne_nil_of_right_ne_nil _ Nat.toDigits_ne_nil, ?_, ?_⟩
  · intro c member
    rcases List.mem_append.mp member with zero | digit
    · rw [List.eq_of_mem_replicate zero]
      decide
    · exact isDigit_toDigits n c digit
  · rw [Nat.ofDigitChars_append, ofDigitChars_zeros, Nat.ofDigitChars_toDigits (by decide) (by decide)]

theorem toList_toString (n : Nat) : (toString n).toList = Nat.toDigits 10 n := by
  rw [Nat.toString_eq_ofList_toDigits, String.toList_ofList]

theorem not_mem_toString (mark : ¬ c.isDigit = true) : c ∉ (toString n).toList := by
  rw [toList_toString]
  exact fun member => mark (isDigit_toDigits n c member)

theorem spells_toString (n : Nat) : Spells (toString n).toList n := by
  rw [toList_toString]
  exact ⟨_, .inl rfl, unsigned?_eq_some_iff.mp (unsigned?_zeros 0 n)⟩

theorem natUpTo?_toString (limit n : Nat) : natUpTo? limit (toString n).toList = (some n).filter (· ≤ limit) := by
  rw [natUpTo?, nat?_eq_some_iff.mpr (spells_toString n)]

end BrokerFleet.Text
