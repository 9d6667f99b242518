import BrokerFleet.Json.Parser
import BrokerFleet.Json.Printer
import BrokerFleet.Proofs.Numerals
import Mathlib.Data.List.Basic

/-!
Numbers in JSON text. Digits stand in front of a point, after it and in an exponent, and none follow a leading zero. A
numeral is read up to where it stops, and every finite number is written as one.
-/

namespace BrokerFleet.Json

open Decimal Reading

variable {c : Char} {cs ds rest : List Char} {n : Nat}

/-! ### What may follow -/

def Stops (rest : List Char) : Prop :=
  ∀ c ∈ rest.head?, c = ',' ∨ c = ']' ∨ c = Char.ofNat 0x7D

theorem stops_nil : Stops [] := fun _ none => nomatch none

theorem stops_comma (rest : List Char) : Stops (',' :: rest) := by
  rintro c ⟨⟩
  exact .inl rfl

theorem stops_bracket (rest : List Char) : Stops (']' :: rest) := by
  rintro c ⟨⟩
  exact .inr (.inl rfl)

theorem stops_brace (rest : List Char) : Stops (Char.ofNat 0x7D :: rest) := by
  rintro c ⟨⟩
  exact .inr (.inr rfl)

def EndsDigits (rest : List Char) : Prop :=
  ∀ c ∈ rest.head?, Text.isDigit c = false

theorem Stops.ends (stops : Stops rest) : EndsDigits rest := by
  intro c next
  rcases stops c next with rfl | rfl | rfl <;> decide

/-! ### Digits -/

/-- Some digits, and nothing else. -/
structure IsDigits (ds : List Char) : Prop where
  filled : ds ≠ []
  each : ∀ c ∈ ds, Text.isDigit c = true

theorem isDigit_eq (digit : c.isDigit = true) : Text.isDigit c = true := by
  rw [Text.isDigit, Text.digitValue?_of_isDigit digit]
  rfl

theorem isDigits_toDigits (n : Nat) : IsDigits (Nat.toDigits 10 n) where
  filled := Nat.toDigits_ne_nil
  each c member := isDigit_eq (Text.isDigit_toDigits n c member)

theorem isDigits_zero : IsDigits ['0'] where
  filled := List.cons_ne_nil _ _
  each c member := by
    rw [List.mem_singleton.mp member]
    decide

theorem IsDigits.cons_inv (digits : IsDigits (c :: ds)) : Text.isDigit c = true :=
  digits.each c List.mem_cons_self

theorem IsDigits.append_zeros (digits : IsDigits ds) (zeros : Nat) : IsDigits (ds ++ List.replicate zeros '0') where
  filled := List.append_ne_nil_of_left_ne_nil digits.filled _
  each c member := by
    rcases List.mem_append.mp member with digit | zero
    · exact digits.each c digit
    · rw [List.eq_of_mem_replicate zero]
      decide

theorem IsDigits.zeros_append (digits : IsDigits ds) (zeros : Nat) : IsDigits (List.replicate zeros '0' ++ ds) where
  filled := List.append_ne_nil_of_right_ne_nil _ digits.filled
  each c member := by
    rcases List.mem_append.mp member with zero | digit
    · rw [List.eq_of_mem_replicate zero]
      decide
    · exact digits.each c digit

theorem IsDigits.take (digits : IsDigits ds) (count : Nat) (nonzero : count ≠ 0) : IsDigits (ds.take count) where
  filled := by simp [digits.filled, nonzero]
  each c member := digits.each c (List.mem_of_mem_take member)

theorem IsDigits.drop (digits : IsDigits ds) (count : Nat) (left : ds.drop count ≠ []) : IsDigits (ds.drop count) where
  filled := left
  each c member := digits.each c (List.mem_of_mem_drop member)

theorem toDigits_head (positive : 0 < n) : (Nat.toDigits 10 n).head? ≠ some '0' := by
  induction n using Nat.strongRecOn with
  | ind n ih =>
      by_cases small : n < 10
      · have each : ∀ n < 10, 0 < n → (Nat.toDigits 10 n).head? ≠ some '0' := by decide
        exact each n small positive
      · have front : 0 < n / 10 := by omega
        have split := Nat.toDigits_append_toDigits (by decide) front (Nat.mod_lt n (by decide : 0 < 10))
        rw [Nat.div_add_mod] at split
        rw [← split, List.head?_append, Option.or_of_isSome (List.isSome_head?.mpr Nat.toDigits_ne_nil)]
        exact ih (n / 10) (by omega) front

theorem someDigits_append (digits : IsDigits ds) (ends : EndsDigits rest) : someDigits (ds ++ rest) = .ok (ds, rest) := by
  have taken : (ds ++ rest).takeWhile Text.isDigit = ds := by
    rw [List.takeWhile_append_of_pos digits.each]
    cases rest with
    | nil => exact List.append_nil _
    | cons c rest => rw [List.takeWhile_cons_of_neg (by rw [ends c rfl]; decide), List.append_nil]
  have dropped : (ds ++ rest).dropWhile Text.isDigit = rest := by
    rw [List.dropWhile_append_of_pos digits.each]
    cases rest with
    | nil => rfl
    | cons c rest => exact List.dropWhile_cons_of_neg (by rw [ends c rfl]; decide)
  cases ds with
  | nil => exact absurd rfl digits.filled
  | cons d ds =>
      show (if Text.isDigit d then _ else _) = _
      rw [if_pos digits.cons_inv, taken, dropped]

/-! ### The grammar -/

namespace Reading.NumberText

variable {t : NumberText}

/-- Digits wherever some must stand, and no zero in front of others. -/
structure WellFormed (t : NumberText) : Prop where
  whole : IsDigits t.whole
  leading : t.whole.head? = some '0' → t.whole = ['0']
  fraction : ∀ ds ∈ t.fraction, IsDigits ds
  exponent : ∀ e ∈ t.exponent, IsDigits e.2

def fractionText : Option (List Char) → List Char
  | none => []
  | some ds => '.' :: ds

def exponentText : Option (Bool × List Char) → List Char
  | none => []
  | some (minus, ds) => 'e' :: (if minus then '-' else '+') :: ds

/-- The parts put together, with a sign in every exponent. -/
def text (t : NumberText) : List Char :=
  (if t.negative then ['-'] else []) ++ (t.whole ++ (fractionText t.fraction ++ exponentText t.exponent))

end Reading.NumberText

open NumberText

/-- A text that is one number. -/
def IsNumeral (cs : List Char) : Prop :=
  ∃ t : NumberText, t.WellFormed ∧ t.text = cs

theorem IsNumeral.begins (numeral : IsNumeral cs) : ∃ c more, cs = c :: more ∧ (c = '-' ∨ Text.isDigit c = true) := by
  obtain ⟨⟨negative, whole, fraction, exponent⟩, ⟨digits, -, -, -⟩, rfl⟩ := numeral
  cases negative with
  | true => exact ⟨'-', _, rfl, .inl rfl⟩
  | false =>
      cases whole with
      | nil => exact absurd rfl digits.filled
      | cons d whole => exact ⟨d, _, rfl, .inr digits.cons_inv⟩

theorem not_isNumeral_null : ¬ IsNumeral "null".toList := by
  intro numeral
  obtain ⟨c, more, same, numeric⟩ := numeral.begins
  obtain rfl : 'n' = c := (List.cons.inj same).1
  exact absurd numeric (by decide)

/-! ### Reading a numeral -/

theorem wholeDigits_append (digits : IsDigits ds) (leading : ds.head? = some '0' → ds = ['0'])
    (ends : EndsDigits rest) : wholeDigits (ds ++ rest) = .ok (ds, rest) := by
  unfold wholeDigits
  split
  · next c others same =>
    -- the zero stands alone, so the next character is the first one after the number
    obtain rfl : ds = ['0'] := by
      cases ds with
      | nil => exact absurd rfl digits.filled
      | cons d ds => exact leading (congrArg some (List.cons.inj same).1)
    obtain rfl : rest = c :: others := (List.cons.inj same).2
    rw [ends c rfl]
    rfl
  · exact someDigits_append digits ends

theorem fractionDigits_append {fraction : Option (List Char)} (each : ∀ ds ∈ fraction, IsDigits ds)
    (ends : EndsDigits rest) (pointless : rest.head? ≠ some '.') :
    fractionDigits (fractionText fraction ++ rest) = .ok (fraction, rest) := by
  cases fraction with
  | none =>
      show fractionDigits rest = _
      unfold fractionDigits
      split
      · exact absurd rfl pointless
      · rfl
  | some ds =>
      show (someDigits (ds ++ rest)).map _ = _
      rw [someDigits_append (each ds rfl) ends]
      rfl

theorem exponentDigits_append {exponent : Option (Bool × List Char)} (each : ∀ e ∈ exponent, IsDigits e.2)
    (stops : Stops rest) : exponentDigits (exponentText exponent ++ rest) = .ok (exponent, rest) := by
  match exponent with
  | none =>
      show exponentDigits rest = _
      unfold exponentDigits
      split
      · rfl
      · next c others =>
        have plain : ¬(c = 'e' ∨ c = 'E') := by
          rcases stops c rfl with rfl | rfl | rfl <;> decide
        rw [if_neg plain]
  | some (true, ds) | some (false, ds) =>
      show (someDigits (ds ++ rest)).map _ = _
      rw [someDigits_append (each _ rfl) stops.ends]
      rfl

theorem exponentText_head {exponent : Option (Bool × List Char)} (stops : Stops rest)
    (next : c ∈ (exponentText exponent ++ rest).head?) : Text.isDigit c = false ∧ c ≠ '.' := by
  cases exponent with
  | none => rcases stops c next with rfl | rfl | rfl <;> decide
  | some e =>
      cases next
      decide

theorem fractionText_ends {fraction : Option (List Char)} (ends : EndsDigits rest) :
    EndsDigits (fractionText fraction ++ rest) := by
  cases fraction with
  | none => exact ends
  | some ds =>
      rintro c ⟨⟩
      decide

theorem numberText_text {t : NumberText} (formed : t.WellFormed) (stops : Stops rest) :
    numberText (t.text ++ rest) = .ok (t, rest) := by
  obtain ⟨negative, whole, fraction, exponent⟩ := t
  obtain ⟨digits, leading, afterPoint, power⟩ := formed
  dsimp only at digits leading afterPoint power
  have ends : EndsDigits (exponentText exponent ++ rest) := fun c next => (exponentText_head stops next).1
  have pointless : (exponentText exponent ++ rest).head? ≠ some '.' := fun next => (exponentText_head stops next).2 rfl
  have parts : wholeDigits (whole ++ (fractionText fraction ++ (exponentText exponent ++ rest))) =
      .ok (whole, fractionText fraction ++ (exponentText exponent ++ rest)) :=
    wholeDigits_append digits leading (fractionText_ends ends)
  have reads := fractionDigits_append afterPoint ends pointless
  have scales := exponentDigits_append power stops
  have text : (⟨negative, whole, fraction, exponent⟩ : NumberText).text ++ rest =
      (if negative then ['-'] else []) ++ (whole ++ (fractionText fraction ++ (exponentText exponent ++ rest))) := by
    simp only [NumberText.text, List.append_assoc]
  rw [text]
  cases negative with
  | true =>
      rw [if_pos rfl, List.singleton_append, numberText]
      simp only [parts, reads, scales, bind, Except.bind]
  | false =>
      rw [if_neg (by decide), List.nil_append, numberText]
      · simp only [parts, reads, scales, bind, Except.bind]
      · intro others same
        cases whole with
        | nil => exact digits.filled rfl
        | cons d whole =>
            obtain rfl : d = '-' := (List.cons.inj same).1
            exact absurd digits.cons_inv (by decide)

/-! ### Writing a number -/

theorem text_toString (n : Int) :
    (⟨decide (n < 0), Nat.toDigits 10 n.natAbs, none, none⟩ : NumberText).text = (toString n).toList := by
  cases n with
  | ofNat m => simp [NumberText.text, fractionText, exponentText, toString, Int.repr, Nat.repr]
  | negSucc m => simp [NumberText.text, fractionText, exponentText, toString, Int.repr, Nat.repr]

theorem wellFormed_toDigits (negative : Bool) (n : Nat) :
    (⟨negative, Nat.toDigits 10 n, none, none⟩ : NumberText).WellFormed where
  whole := isDigits_toDigits n
  leading zero := by
    obtain rfl | positive := Nat.eq_zero_or_pos n
    · rfl
    · exact absurd zero (toDigits_head positive)
  fraction _ none := nomatch none
  exponent _ none := nomatch none

theorem isNumeral_toString (n : Int) : IsNumeral (toString n).toList :=
  ⟨_, wellFormed_toDigits _ _, text_toString n⟩

/-! ### The shortest digits of a number that is not zero -/

theorem nearestInside?_pos {i : Shortest.Interval} {power : Int} {k : Nat}
    (near : Shortest.nearestInside? i power = some k) : 0 < k := by
  unfold Shortest.nearestInside? at near
  simp only at near
  split at near
  · next below _ =>
    rw [Bool.and_eq_true, bne_iff_ne] at below
    have positive := Nat.pos_of_ne_zero below.2
    (repeat' split at near) <;> cases near <;> omega
  · next below _ =>
    rw [Bool.and_eq_true, bne_iff_ne] at below
    cases near
    exact Nat.pos_of_ne_zero below.2
  · cases near
    exact Nat.succ_pos _
  · cases near

theorem search_pos {i : Shortest.Interval} {lead : Int} {fuel count : Nat} (positive : 0 < i.value) :
    0 < (Shortest.search i lead fuel count).digits := by
  induction fuel generalizing count with
  | zero => exact positive
  | succ fuel ih =>
      rw [Shortest.search]
      split
      · next near => exact nearestInside?_pos near
      · exact ih

theorem strip_pos {fuel : Nat} {s : Scientific} (positive : 0 < s.digits) : 0 < (Shortest.strip fuel s).digits := by
  induction fuel generalizing s with
  | zero => exact positive
  | succ fuel ih =>
      rw [Shortest.strip]
      split
      · next zeros =>
        apply ih
        show 0 < s.digits / 10
        omega
      · exact positive

theorem shortest_pos {x : Binary64} (nonzero : x.mantissa ≠ 0) : 0 < x.shortest.digits := by
  unfold Binary64.shortest
  rw [if_neg nonzero]
  apply strip_pos
  apply search_pos
  show 0 < 4 * x.mantissa
  omega

/-! ### Writing a fraction -/

def IsMagnitude (cs : List Char) : Prop :=
  ∃ t : NumberText, t.WellFormed ∧ t.negative = false ∧ t.text = cs

theorem IsMagnitude.isNumeral (magnitude : IsMagnitude cs) (negative : Bool) :
    IsNumeral (if negative then '-' :: cs else cs) := by
  obtain ⟨t, formed, plain, rfl⟩ := magnitude
  cases negative with
  | false => exact ⟨t, formed, rfl⟩
  | true =>
      refine ⟨{ t with negative := true }, ⟨formed.whole, formed.leading, formed.fraction, formed.exponent⟩, ?_⟩
      simp [NumberText.text, plain]

theorem isMagnitude_zero : IsMagnitude "0.0".toList := by
  refine ⟨⟨false, ['0'], some ['0'], none⟩, ⟨isDigits_zero, fun _ => rfl, ?_, nofun⟩, rfl, rfl⟩
  rintro ds ⟨⟩
  exact isDigits_zero

theorem isMagnitude_positional (positive : 0 < n) (count : Int) :
    IsMagnitude (Layout.positional (Nat.toDigits 10 n) count) := by
  have digits := isDigits_toDigits n
  have nonzero := toDigits_head positive
  unfold Layout.positional
  generalize Nat.toDigits 10 n = ds at digits nonzero ⊢
  split
  · refine ⟨⟨false, ['0'], some (List.replicate (-count).toNat '0' ++ ds), none⟩,
      ⟨isDigits_zero, fun _ => rfl, ?_, nofun⟩, rfl, ?_⟩
    · rintro _ ⟨⟩
      exact digits.zeros_append _
    · simp [NumberText.text, fractionText, exponentText]
  · next beyond =>
    have front : IsDigits (ds.take count.toNat) := digits.take _ (by omega)
    have after : IsDigits (if (ds.drop count.toNat).isEmpty then ['0'] else ds.drop count.toNat) := by
      split
      · exact isDigits_zero
      · next left => exact digits.drop _ (by simpa using left)
    refine ⟨⟨false, ds.take count.toNat ++ List.replicate (count.toNat - (ds.take count.toNat).length) '0',
      some (if (ds.drop count.toNat).isEmpty then ['0'] else ds.drop count.toNat), none⟩,
      ⟨front.append_zeros _, ?_, ?_, nofun⟩, rfl, ?_⟩
    · intro zero
      rw [List.head?_append, Option.or_of_isSome (List.isSome_head?.mpr front.filled), List.head?_take,
        if_neg (by omega)] at zero
      exact absurd zero nonzero
    · rintro _ ⟨⟩
      exact after
    · simp [NumberText.text, fractionText, exponentText]

theorem isMagnitude_exponential (digits : IsDigits ds) (power : Int) : IsMagnitude (Layout.exponential ds power) := by
  have scale := isDigits_toDigits power.natAbs
  unfold Layout.exponential
  cases ds with
  | nil => exact absurd rfl digits.filled
  | cons first others =>
      have lead : IsDigits [first] := digits.take 1 (by decide)
      cases others with
      | nil =>
          refine ⟨⟨false, [first], none, some (decide (power < 0), Nat.toDigits 10 power.natAbs)⟩,
            ⟨lead, ?_, nofun, ?_⟩, rfl, ?_⟩
          · rintro ⟨⟩
            rfl
          · rintro e ⟨⟩
            exact scale
          · simp [NumberText.text, fractionText, exponentText]
      | cons next others =>
          have after : IsDigits (next :: others) := digits.drop 1 (List.cons_ne_nil _ _)
          refine ⟨⟨false, [first], some (next :: others), some (decide (power < 0), Nat.toDigits 10 power.natAbs)⟩,
            ⟨lead, ?_, ?_, ?_⟩, rfl, ?_⟩
          · rintro ⟨⟩
            rfl
          · rintro _ ⟨⟩
            exact after
          · rintro e ⟨⟩
            exact scale
          · simp [NumberText.text, fractionText, exponentText]

theorem isNumeral_render (layout : Layout) (x : Binary64) : IsNumeral (layout.render x).toList := by
  unfold Layout.render
  rw [String.toList_ofList]
  apply IsMagnitude.isNumeral
  split
  · exact isMagnitude_zero
  · next nonzero =>
    split
    · exact isMagnitude_positional (shortest_pos nonzero) _
    · exact isMagnitude_exponential (isDigits_toDigits _) _

end BrokerFleet.Json
