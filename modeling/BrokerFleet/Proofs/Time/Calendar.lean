import BrokerFleet.Time.Calendar

/-!
Days and dates. Each day has a date of the calendar, and that date lies as many days after 1970-01-01 as the day does.
-/

namespace BrokerFleet.CivilDate

variable {year dayOfYear days : Int}

def fromMarch (year dayOfYear : Int) : CivilDate :=
  let monthFromMarch := (5 * dayOfYear + 2) / 153
  let month := if monthFromMarch < 10 then monthFromMarch + 3 else monthFromMarch - 9
  ⟨year + if month ≤ 2 then 1 else 0, month.toNat, (dayOfYear - (153 * monthFromMarch + 2) / 5 + 1).toNat⟩

theorem isLeapYear_iff : isLeapYear year = true ↔ year % 4 = 0 ∧ (year % 100 ≠ 0 ∨ year % 400 = 0) := by
  simp [isLeapYear]

theorem daysInMonth_le (year : Int) (month : Nat) : daysInMonth year month ≤ 31 := by
  unfold daysInMonth
  split
  · split <;> decide
  · split <;> decide

/-! ### Years -/

/-- A day in a cycle of 400 years is within the year that is reckoned for it, and only a year before a leap day has
366 days. -/
theorem year_spans {day leaps centuries cycles fourth hundredth : Int} (low : 0 ≤ day) (high : day ≤ 146096)
    (hleaps : leaps = day / 1460) (hcenturies : centuries = day / 36524) (hcycles : cycles = day / 146096)
    (hyear : year = (day - leaps + centuries - cycles) / 365) (hfourth : fourth = year / 4)
    (hhundredth : hundredth = year / 100) :
    365 * year + fourth - hundredth ≤ day ∧ day ≤ 365 * year + fourth - hundredth + 365 ∧
    (day = 365 * year + fourth - hundredth + 365 →
      year = 4 * fourth + 3 ∧ (year ≠ 100 * hundredth + 99 ∨ year = 399)) := by
  -- The quotients of the day are not linear in the year, but next to what they would be if they were.
  have near : leaps = fourth ∨ leaps = fourth + 1 := by omega
  have century : hundredth = 0 ∨ hundredth = 1 ∨ hundredth = 2 ∨ hundredth = 3 := by omega
  have counted : centuries = hundredth ∨ centuries = hundredth + 1 := by
    rcases century with rfl | rfl | rfl | rfl <;> omega
  rcases near with rfl | rfl <;> rcases century with rfl | rfl | rfl | rfl <;> rcases counted with rfl | rfl <;>
    exact ⟨by omega, by omega, fun last => ⟨by omega, by omega⟩⟩

theorem ofDays_cases (days : Int) : ∃ year dayOfYear : Int, ofDays days = fromMarch year dayOfYear ∧
    0 ≤ dayOfYear ∧ dayOfYear ≤ 365 ∧ (dayOfYear = 365 → isLeapYear (year + 1) = true) ∧
    days + 719468 = 365 * year + year / 4 - year / 100 + year / 400 + dayOfYear := by
  let era := (days + 719468) / 146097
  let day := (days + 719468) % 146097
  let ofEra := (day - day / 1460 + day / 36524 - day / 146096) / 365
  have low : 0 ≤ day := by omega
  have high : day ≤ 146096 := by omega
  have inCycle : 0 ≤ ofEra ∧ ofEra ≤ 399 := by omega
  obtain ⟨after, before, last⟩ := year_spans low high rfl rfl rfl (show ofEra = _ from rfl) rfl rfl
  have fourths : (ofEra + era * 400) / 4 = ofEra / 4 + 100 * era := by omega
  have hundredths : (ofEra + era * 400) / 100 = ofEra / 100 + 4 * era := by omega
  have cycles : (ofEra + era * 400) / 400 = era := by omega
  refine ⟨ofEra + era * 400, day - (365 * ofEra + ofEra / 4 - ofEra / 100), rfl, by omega, by omega, ?_, ?_⟩
  · intro full
    rw [isLeapYear_iff]
    have leap := last (by omega)
    omega
  · rw [fourths, hundredths, cycles]
    omega

/-! ### Months -/

theorem fromMarch_early (low : 0 ≤ dayOfYear) (early : (5 * dayOfYear + 2) / 153 < 10) :
    fromMarch year dayOfYear = ⟨year, ((5 * dayOfYear + 2) / 153 + 3).toNat,
      (dayOfYear - (153 * ((5 * dayOfYear + 2) / 153) + 2) / 5 + 1).toNat⟩ := by
  unfold fromMarch
  dsimp only
  rw [if_pos early, if_neg (by omega), Int.add_zero]

theorem fromMarch_late (high : dayOfYear ≤ 365) (late : ¬ (5 * dayOfYear + 2) / 153 < 10) :
    fromMarch year dayOfYear = ⟨year + 1, ((5 * dayOfYear + 2) / 153 - 9).toNat,
      (dayOfYear - (153 * ((5 * dayOfYear + 2) / 153) + 2) / 5 + 1).toNat⟩ := by
  unfold fromMarch
  dsimp only
  rw [if_neg late, if_pos (by omega)]

theorem toDays_fromMarch (low : 0 ≤ dayOfYear) (high : dayOfYear ≤ 365) :
    (fromMarch year dayOfYear).toDays =
      365 * year + year / 4 - year / 100 + year / 400 + dayOfYear - 719468 := by
  by_cases early : (5 * dayOfYear + 2) / 153 < 10
  · rw [fromMarch_early low early]
    unfold toDays
    dsimp only
    rw [if_neg (by omega), if_neg (by omega)]
    omega
  · rw [fromMarch_late high early]
    unfold toDays
    dsimp only
    rw [if_pos (by omega), if_pos (by omega), Int.add_sub_cancel]
    omega

theorem fromMarch_valid (low : 0 ≤ dayOfYear) (high : dayOfYear ≤ 365)
    (leap : dayOfYear = 365 → isLeapYear (year + 1) = true) : (fromMarch year dayOfYear).isValid = true := by
  by_cases early : (5 * dayOfYear + 2) / 153 < 10
  · rw [fromMarch_early low early]
    simp only [isValid, daysInMonth, Bool.and_eq_true, decide_eq_true_eq]
    refine ⟨⟨⟨by omega, by omega⟩, by omega⟩, ?_⟩
    rw [if_neg (by omega)]
    split <;> omega
  · rw [fromMarch_late high early]
    simp only [isValid, daysInMonth, Bool.and_eq_true, decide_eq_true_eq]
    refine ⟨⟨⟨by omega, by omega⟩, by omega⟩, ?_⟩
    split
    · split
      · omega
      · next common =>
        have short : dayOfYear ≠ 365 := fun full => common (leap full)
        omega
    · rw [if_neg (by omega)]
      omega

/-! ### Days and dates -/

theorem ofDays_valid (days : Int) : (ofDays days).isValid = true := by
  obtain ⟨year, dayOfYear, date, low, high, leap, -⟩ := ofDays_cases days
  rw [date]
  exact fromMarch_valid low high leap

theorem toDays_ofDays (days : Int) : (ofDays days).toDays = days := by
  obtain ⟨year, dayOfYear, date, low, high, -, reckoned⟩ := ofDays_cases days
  rw [date, toDays_fromMarch low high, ← reckoned, Int.add_sub_cancel]

end BrokerFleet.CivilDate
