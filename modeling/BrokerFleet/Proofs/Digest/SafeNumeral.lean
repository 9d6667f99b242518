import BrokerFleet.Digest.SafeNumeral
import Mathlib.Data.Nat.Digits.Lemmas

/-!
Numerals over the safe alphabet stand for one number each. A numeral is read back by the places of its characters in the
alphabet, and of the texts that are read as a number the numeral is the only one without a zero in front.
-/

namespace BrokerFleet.Digest.SafeNumeral

variable {n m : Nat} {c : Char} {s : String}

def value (s : String) : Nat :=
  Nat.ofDigits base (s.toList.reverse.map alphabet.idxOf)

/-- A text of digits, in which a zero stands in front only if it stands alone. -/
structure IsNumeral (s : String) : Prop where
  digits : ∀ c ∈ s.toList, c ∈ alphabet
  filled : s.toList ≠ []
  plain : s.toList.head? = some 'b' → s.toList = ['b']

/-! ### The alphabet -/

theorem alphabet_length : alphabet.length = base := by
  decide +kernel

theorem alphabet_nodup : alphabet.Nodup := by
  decide +kernel

theorem digit_mem : ∀ n < base, digit n ∈ alphabet := by
  decide +kernel

theorem idxOf_digit : ∀ n < base, alphabet.idxOf (digit n) = n := by
  decide +kernel

theorem digit_eq_zero_iff : ∀ n < base, digit n = 'b' ↔ n = 0 := by
  decide +kernel

theorem idxOf_lt (member : c ∈ alphabet) : alphabet.idxOf c < base :=
  alphabet_length ▸ List.idxOf_lt_length_iff.mpr member

theorem digit_idxOf (member : c ∈ alphabet) : digit (alphabet.idxOf c) = c := by
  have inside := List.idxOf_lt_length_iff.mpr member
  rw [digit, List.getD_eq_getElem?_getD, List.getElem?_eq_getElem inside, Option.getD_some, List.getElem_idxOf inside]

/-! ### The digits of a number -/

theorem lt_base_of_mem (member : n ∈ Nat.digits base m) : n < base :=
  Nat.digits_lt_base (by decide) member

theorem digitsOnto_eq (positive : n ≠ 0) (after : List Char) :
    digitsOnto n after = ((Nat.digits base n).map digit).reverse ++ after := by
  induction n using Nat.strongRecOn generalizing after with
  | ind n ih =>
      rw [digitsOnto]
      split
      · next last =>
        rw [Nat.digits_of_lt base n positive last]
        rfl
      · next more =>
        have enough : base ≤ n := Nat.le_of_not_lt more
        have less : n / base < n := Nat.div_lt_self (Nat.pos_of_ne_zero positive) (by decide)
        have others : n / base ≠ 0 := Nat.ne_of_gt (Nat.div_pos enough (by decide))
        rw [ih _ less others, Nat.digits_def' (by decide) (Nat.pos_of_ne_zero positive), List.map_cons,
          List.reverse_cons, List.append_assoc, List.singleton_append]

theorem digitsOnto_zero : digitsOnto 0 [] = ['b'] := by
  rw [digitsOnto]
  rfl

theorem idxOf_digits (n : Nat) : ((Nat.digits base n).map digit).map alphabet.idxOf = Nat.digits base n := by
  rw [List.map_map]
  exact (List.map_congr_left fun d member => idxOf_digit d (lt_base_of_mem member)).trans (List.map_id _)

theorem digitsOnto_head_iff (n : Nat) : (digitsOnto n []).head? = some 'b' ↔ n = 0 := by
  by_cases zero : n = 0
  · rw [zero, digitsOnto_zero]
    exact iff_of_true rfl rfl
  · have filled : Nat.digits base n ≠ [] := Nat.digits_ne_nil_iff_ne_zero.mpr zero
    have highest : (digitsOnto n []).head? = some (digit ((Nat.digits base n).getLast filled)) := by
      rw [digitsOnto_eq zero, List.append_nil, List.head?_reverse, List.getLast?_map, List.getLast?_eq_some_getLast filled]
      rfl
    rw [highest, Option.some.injEq, digit_eq_zero_iff _ (lt_base_of_mem (List.getLast_mem filled))]
    exact iff_of_false (Nat.getLast_digit_ne_zero base zero) zero

theorem toList_encode (v : UInt32) : (encode v).toList = digitsOnto v.toNat [] :=
  String.toList_ofList

/-! ### Numerals and numbers -/

theorem value_encode (v : UInt32) : value (encode v) = v.toNat := by
  unfold value
  rw [toList_encode]
  by_cases zero : v.toNat = 0
  · rw [zero, digitsOnto_zero]
    decide +kernel
  · rw [digitsOnto_eq zero, List.append_nil, List.reverse_reverse, idxOf_digits, Nat.ofDigits_digits]

theorem mem_alphabet_of_encode {v : UInt32} (member : c ∈ (encode v).toList) : c ∈ alphabet := by
  rw [toList_encode] at member
  by_cases zero : v.toNat = 0
  · rw [zero, digitsOnto_zero] at member
    rw [List.mem_singleton.mp member]
    decide +kernel
  · rw [digitsOnto_eq zero, List.append_nil, List.mem_reverse, List.mem_map] at member
    obtain ⟨d, among, rfl⟩ := member
    exact digit_mem d (lt_base_of_mem among)

theorem length_encode (v : UInt32) : 1 ≤ (encode v).length ∧ (encode v).length ≤ 7 := by
  rw [← String.length_toList, toList_encode]
  by_cases zero : v.toNat = 0
  · rw [zero, digitsOnto_zero]
    decide
  · rw [digitsOnto_eq zero, List.append_nil, List.length_reverse, List.length_map]
    refine ⟨List.length_pos_iff.mpr (Nat.digits_ne_nil_iff_ne_zero.mpr zero), ?_⟩
    have wide : v.toNat < base ^ 7 := Nat.lt_trans v.toNat_lt (by decide)
    exact (Nat.digits_length_le_iff (by decide) _).mpr wide

theorem encode_head_iff (v : UInt32) : (encode v).toList.head? = some 'b' ↔ v = 0 := by
  rw [toList_encode, digitsOnto_head_iff]
  exact UInt32.toNat_inj (b := 0)

theorem isNumeral_encode (v : UInt32) : IsNumeral (encode v) where
  digits _ member := mem_alphabet_of_encode member
  filled none := by
    have long := (length_encode v).1
    rw [← String.length_toList, none] at long
    exact absurd long (by decide)
  plain zero := by
    rw [(encode_head_iff v).mp zero, toList_encode]
    exact digitsOnto_zero

theorem IsNumeral.toList_eq (numeral : IsNumeral s) : s.toList = digitsOnto (value s) [] := by
  by_cases zero : s.toList.head? = some 'b'
  · have alone := numeral.plain zero
    have nothing : value s = 0 := by
      rw [value, alone]
      decide +kernel
    rw [nothing, digitsOnto_zero, alone]
  · have inside : ∀ c ∈ s.toList.reverse, c ∈ alphabet := fun c member => numeral.digits c (List.mem_reverse.mp member)
    have digits : Nat.digits base (value s) = s.toList.reverse.map alphabet.idxOf := by
      refine Nat.digits_ofDigits base (by decide) _ ?_ ?_
      · intro d member
        obtain ⟨c, among, rfl⟩ := List.mem_map.mp member
        exact idxOf_lt (inside c among)
      · intro filled last
        have first := digit_idxOf (numeral.digits _ (List.head_mem numeral.filled))
        rw [List.getLast_map, List.getLast_reverse] at last
        rw [last] at first
        exact zero ((List.head?_eq_some_head numeral.filled).trans (congrArg some first.symm))
    have positive : value s ≠ 0 := by
      intro nothing
      rw [nothing, Nat.digits_zero] at digits
      exact numeral.filled (List.reverse_eq_nil_iff.mp (List.map_eq_nil_iff.mp digits.symm))
    have back : (s.toList.reverse.map alphabet.idxOf).map digit = s.toList.reverse := by
      rw [List.map_map]
      exact (List.map_congr_left fun c member => digit_idxOf (inside c member)).trans (List.map_id _)
    rw [digitsOnto_eq positive, List.append_nil, digits, back, List.reverse_reverse]

theorem eq_encode_iff (s : String) (v : UInt32) : s = encode v ↔ IsNumeral s ∧ value s = v.toNat := by
  constructor
  · rintro rfl
    exact ⟨isNumeral_encode v, value_encode v⟩
  · rintro ⟨numeral, stands⟩
    refine String.toList_inj.mp ?_
    rw [numeral.toList_eq, stands, toList_encode]

theorem encode_inj (v w : UInt32) : encode v = encode w ↔ v = w := by
  refine ⟨fun same => UInt32.toNat_inj.mp ?_, congrArg encode⟩
  rw [← value_encode v, same, value_encode]

end BrokerFleet.Digest.SafeNumeral
