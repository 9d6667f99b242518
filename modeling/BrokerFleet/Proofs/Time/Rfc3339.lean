import BrokerFleet.Proofs.Numerals
import BrokerFleet.Proofs.Time.Calendar
import BrokerFleet.Time.Rfc3339

/-!
Time stamps that are written and read again. A stamp of a year in four digits is read as the instant that it was
written for, without the fraction of its second.
-/

namespace BrokerFleet

namespace Instant

def year (t : Instant) : Int :=
  (CivilDate.ofDays (t.seconds / 86400)).year

/-- The year has four digits. -/
def HasPlainYear (t : Instant) : Prop :=
  0 ≤ t.year ∧ t.year ≤ 9999

instance (t : Instant) : Decidable t.HasPlainYear :=
  inferInstanceAs (Decidable (_ ∧ _))

/-- A leap second is the last of its minute. -/
def LeapsAtMinute (t : Instant) : Prop :=
  t.nanos < 1000000000 ∨ t.seconds % 60 = 59

end Instant

namespace Rfc3339

variable {t : Instant} {width n : Nat} {rest : List Char}

theorem padded_toList (width n : Nat) : (Text.padded width n).toList =
    List.replicate (width - (Nat.toDigits 10 n).length) '0' ++ Nat.toDigits 10 n :=
  String.toList_ofList

theorem digits?_padded (pos : 0 < width) (fits : n < Nat.pow 10 width) (rest : List Char) :
    digits? width ((Text.padded width n).toList ++ rest) = some (n, rest) := by
  have short : (Nat.toDigits 10 n).length ≤ width := (Nat.length_toDigits_le_iff (by decide) pos).mpr fits
  have filled : (Text.padded width n).toList.length = width := by
    rw [padded_toList, List.length_append, List.length_replicate]
    omega
  unfold digits?
  rw [List.take_left' filled, List.drop_left' filled, filled, if_neg (Nat.lt_irrefl _), padded_toList,
    Text.unsigned?_zeros]
  rfl

/-! A reading goes on behind each part that was written. -/

theorem bind_digits? {α : Type} (pos : 0 < width) (fits : n < Nat.pow 10 width) (f : Nat × List Char → Option α) :
    (digits? width ((Text.padded width n).toList ++ rest) >>= f) = f (n, rest) := by
  rw [digits?_padded pos fits]
  rfl

theorem bind_mark? {α : Type} {mark : Char} (f : List Char → Option α) :
    (mark? mark (mark :: rest) >>= f) = f rest := by
  rw [mark?, if_pos rfl]
  rfl

theorem bind_separator? {α : Type} (f : List Char → Option α) : (separator? ('T' :: rest) >>= f) = f rest := by
  rw [separator?, if_pos (Or.inl rfl)]
  rfl

theorem bind_fraction? {α : Type} (f : Nat × List Char → Option α) : (fraction? ['Z'] >>= f) = f (0, ['Z']) := rfl

theorem bind_offset? {α : Type} (f : Int × List Char → Option α) : (offset? ['Z'] >>= f) = f (0, []) := rfl

theorem valid_fits {date : CivilDate} (valid : date.isValid = true) :
    date.month < Nat.pow 10 2 ∧ date.day < Nat.pow 10 2 := by
  simp only [CivilDate.isValid, Bool.and_eq_true, decide_eq_true_eq] at valid
  obtain ⟨⟨⟨-, month⟩, -⟩, day⟩ := valid
  have short := CivilDate.daysInMonth_le date.year date.month
  have hundred : Nat.pow 10 2 = 100 := rfl
  omega

theorem parse?_text {year month day hour minute second : Nat} (fits : year < Nat.pow 10 4)
    (valid : (CivilDate.mk year month day).isValid = true) (hours : hour < 24) (minutes : minute < 60)
    (seconds : second ≤ 60) :
    parse? (Text.padded 4 year ++ "-" ++ Text.padded 2 month ++ "-" ++ Text.padded 2 day ++ "T" ++
      Text.padded 2 hour ++ ":" ++ Text.padded 2 minute ++ ":" ++ Text.padded 2 second ++ "Z") =
    some ⟨(CivilDate.mk year month day).toDays * 86400 + hour * 3600 + minute * 60 +
      (if second = 60 then 59 else second : Nat), if second = 60 then 1000000000 else 0⟩ := by
  obtain ⟨monthFits, dayFits⟩ := valid_fits valid
  have hourFits : hour < Nat.pow 10 2 := Nat.lt_trans hours (by decide)
  have minuteFits : minute < Nat.pow 10 2 := Nat.lt_trans minutes (by decide)
  have secondFits : second < Nat.pow 10 2 := Nat.lt_of_le_of_lt seconds (by decide)
  have dash : "-".toList = ['-'] := rfl
  have colon : ":".toList = [':'] := rfl
  have letter : "T".toList = ['T'] := rfl
  have utc : "Z".toList = ['Z'] := rfl
  have text : (Text.padded 4 year ++ "-" ++ Text.padded 2 month ++ "-" ++ Text.padded 2 day ++ "T" ++
      Text.padded 2 hour ++ ":" ++ Text.padded 2 minute ++ ":" ++ Text.padded 2 second ++ "Z").toList =
      (Text.padded 4 year).toList ++ '-' :: ((Text.padded 2 month).toList ++ '-' :: ((Text.padded 2 day).toList ++
        'T' :: ((Text.padded 2 hour).toList ++ ':' :: ((Text.padded 2 minute).toList ++
          ':' :: ((Text.padded 2 second).toList ++ ['Z']))))) := by
    simp only [String.toList_append, List.append_assoc, dash, colon, letter, utc, List.cons_append, List.nil_append]
  unfold parse?
  rw [text, bind_digits? (by decide) fits]
  dsimp only
  rw [bind_mark?, bind_digits? (by decide) monthFits]
  dsimp only
  rw [bind_mark?, bind_digits? (by decide) dayFits]
  dsimp only
  rw [bind_separator?, bind_digits? (by decide) hourFits]
  dsimp only
  rw [bind_mark?, bind_digits? (by decide) minuteFits]
  dsimp only
  rw [bind_mark?, bind_digits? (by decide) secondFits]
  dsimp only
  rw [bind_fraction?, bind_offset?]
  dsimp only
  have passes : (([] : List Char).isEmpty && (CivilDate.mk year month day).isValid && decide (hour < 24) &&
      decide (minute < 60) && decide (second ≤ 60)) = true := by
    rw [valid, decide_eq_true hours, decide_eq_true minutes, decide_eq_true seconds]
    rfl
  rw [if_pos passes, Int.sub_zero]
  split <;> rfl

theorem parse?_format (plain : t.HasPlainYear) (leaps : t.LeapsAtMinute) :
    parse? (format t) = some t.wholeSeconds := by
  obtain ⟨low, high⟩ := plain
  have valid := CivilDate.ofDays_valid (t.seconds / 86400)
  have reckoned := CivilDate.toDays_ofDays (t.seconds / 86400)
  unfold Instant.year at low high
  unfold format Instant.wholeSeconds
  dsimp only
  generalize CivilDate.ofDays (t.seconds / 86400) = date at *
  obtain ⟨year, month, day⟩ := date
  obtain ⟨year, rfl⟩ := Int.eq_ofNat_of_zero_le low
  dsimp only at high
  rw [yearText, if_pos ⟨low, high⟩, Int.toNat_natCast]
  have fits : year < Nat.pow 10 4 := Nat.lt_succ_of_le (Int.ofNat_le.mp high)
  by_cases usual : t.nanos < 1000000000
  · rw [if_pos usual, if_pos usual, parse?_text fits valid (by omega) (by omega) (by omega), reckoned,
      if_neg (by omega), if_neg (by omega)]
    congr
    omega
  · have last : t.seconds % 60 = 59 := leaps.resolve_left usual
    rw [if_neg usual, if_neg usual, parse?_text fits valid (by omega) (by omega) (by omega), reckoned,
      if_pos (by omega), if_pos (by omega)]
    congr
    omega

end Rfc3339

end BrokerFleet
