import BrokerFleet.Proofs.Time.Span
import BrokerFleet.Schedule
import Mathlib.Algebra.Group.Nat.Defs

/-!
How long a delay grows. A length of time is kept in two words, and repeating it may run over them, but what is cut off
there is cut off by the ceiling anyway: the delay is the doubled base or the ceiling, whichever is shorter, as if the
words had no end.
-/

namespace BrokerFleet

namespace Span

/-- A length of time in two words: whole seconds, and the nanoseconds beyond them. -/
structure Words where
  seconds : UInt64
  nanos : UInt32
  nanos_lt : nanos.toNat < 1000000000

namespace Words

variable {v w : Words} {k : UInt32}

def span (w : Words) : Span :=
  ⟨w.seconds.toNat * 1000000000 + w.nanos.toNat⟩

def longest : Words :=
  ⟨18446744073709551615, 999999999, by decide⟩

def product? (a b : UInt64) : Option UInt64 :=
  if a.toNat * b.toNat < UInt64.size then some (a * b) else none

def sum? (a b : UInt64) : Option UInt64 :=
  if a.toNat + b.toNat < UInt64.size then some (a + b) else none

def nanosTimes (w : Words) (k : UInt32) : UInt64 :=
  w.nanos.toUInt64 * k.toUInt64

def secondsTimes? (w : Words) (k : UInt32) : Option UInt64 :=
  (product? w.seconds k.toUInt64).bind fun seconds => sum? seconds (w.nanosTimes k / 1000000000)

theorem toNat_nanosTimes (w : Words) (k : UInt32) : (w.nanosTimes k).toNat = w.nanos.toNat * k.toNat := by
  have below : w.nanos.toNat * k.toNat < 2 ^ 64 := calc
    w.nanos.toNat * k.toNat ≤ 2 ^ 32 * k.toNat := Nat.mul_le_mul_right _ (Nat.le_of_lt w.nanos.toNat_lt)
    _ < 2 ^ 32 * 2 ^ 32 := Nat.mul_lt_mul_of_pos_left k.toNat_lt (by decide)
  rw [nanosTimes, UInt64.toNat_mul, UInt32.toNat_toUInt64, UInt32.toNat_toUInt64, Nat.mod_eq_of_lt below]

theorem toNat_rest (w : Words) (k : UInt32) :
    (w.nanosTimes k % 1000000000).toUInt32.toNat = w.nanos.toNat * k.toNat % 1000000000 := by
  have below : w.nanos.toNat * k.toNat % 1000000000 < 2 ^ 32 := by omega
  rw [UInt64.toNat_toUInt32, UInt64.toNat_mod, toNat_nanosTimes]
  exact Nat.mod_eq_of_lt below

theorem rest_lt (w : Words) (k : UInt32) : (w.nanosTimes k % 1000000000).toUInt32.toNat < 1000000000 := by
  rw [toNat_rest]
  exact Nat.mod_lt _ (by decide)

def times (w : Words) (k : UInt32) : Words :=
  match w.secondsTimes? k with
  | some seconds => ⟨seconds, (w.nanosTimes k % 1000000000).toUInt32, w.rest_lt k⟩
  | none => longest

def min (v w : Words) : Words :=
  if v.seconds < w.seconds ∨ v.seconds = w.seconds ∧ v.nanos ≤ w.nanos then v else w

/-- The delay, where one bit is shifted to double it. -/
def backoff (base ceiling : Words) (attempts : UInt32) : Words :=
  (base.times (1 <<< Min.min attempts 16)).min ceiling

/-! ### What two words hold -/

theorem nanos_span_le (w : Words) : w.span.nanos ≤ Span.longest.nanos := by
  have seconds := w.seconds.toNat_lt
  have nanos := w.nanos_lt
  show _ * 1000000000 + _ ≤ 18446744073709551616 * 1000000000 - 1
  omega

theorem span_longest : longest.span = Span.longest := by
  decide +kernel

theorem le_longest_iff (d : Span) : d.nanos ≤ Span.longest.nanos ↔ ∃ w : Words, w.span = d := by
  constructor
  · intro below
    have bound : d.nanos ≤ 18446744073709551616 * 1000000000 - 1 := below
    have seconds : (UInt64.ofNat (d.nanos / 1000000000)).toNat = d.nanos / 1000000000 :=
      UInt64.toNat_ofNat_of_lt' (by show _ < 18446744073709551616; omega)
    have nanos : (UInt32.ofNat (d.nanos % 1000000000)).toNat = d.nanos % 1000000000 :=
      UInt32.toNat_ofNat_of_lt' (by show _ < 4294967296; omega)
    refine ⟨⟨.ofNat (d.nanos / 1000000000), .ofNat (d.nanos % 1000000000), by omega⟩, ?_⟩
    refine Span.eq_of_nanos ?_
    show (UInt64.ofNat _).toNat * 1000000000 + (UInt32.ofNat _).toNat = d.nanos
    rw [seconds, nanos]
    omega
  · rintro ⟨w, rfl⟩
    exact w.nanos_span_le

/-! ### Repeating a length of time -/

theorem secondsTimes?_cases (w : Words) (k : UInt32) :
    (∃ seconds, w.secondsTimes? k = some seconds ∧
      seconds.toNat = w.seconds.toNat * k.toNat + w.nanos.toNat * k.toNat / 1000000000) ∨
    (w.secondsTimes? k = none ∧
      UInt64.size ≤ w.seconds.toNat * k.toNat + w.nanos.toNat * k.toNat / 1000000000) := by
  have carried : (w.nanosTimes k / 1000000000).toNat = w.nanos.toNat * k.toNat / 1000000000 := by
    rw [UInt64.toNat_div, toNat_nanosTimes]
    rfl
  unfold secondsTimes? product? sum?
  rw [UInt32.toNat_toUInt64]
  split
  · next fits =>
    have product : (w.seconds * k.toUInt64).toNat = w.seconds.toNat * k.toNat := by
      rw [UInt64.toNat_mul, UInt32.toNat_toUInt64]
      exact Nat.mod_eq_of_lt fits
    rw [Option.bind_some, product, carried]
    split
    · next fits' =>
      refine .inl ⟨_, rfl, ?_⟩
      rw [UInt64.toNat_add, product, carried]
      exact Nat.mod_eq_of_lt fits'
    · next beyond => exact .inr ⟨rfl, Nat.le_of_not_lt beyond⟩
  · next beyond => exact .inr ⟨rfl, Nat.le_trans (Nat.le_of_not_lt beyond) (Nat.le_add_right _ _)⟩

theorem span_times (w : Words) (k : UInt32) : (w.times k).span = w.span.times k.toNat := by
  have total : w.span.nanos * k.toNat =
      w.seconds.toNat * k.toNat * 1000000000 + w.nanos.toNat * k.toNat := by
    rw [span, Nat.add_mul, Nat.mul_right_comm]
  have split := Nat.div_add_mod (w.nanos.toNat * k.toNat) 1000000000
  unfold times
  rcases w.secondsTimes?_cases k with ⟨seconds, fits, same⟩ | ⟨none, most⟩
  · rw [fits]
    have kept : seconds.toNat * 1000000000 + (w.nanosTimes k % 1000000000).toUInt32.toNat = w.span.nanos * k.toNat := by
      rw [toNat_rest, same, total]
      omega
    have inside := nanos_span_le ⟨seconds, _, w.rest_lt k⟩
    rw [span, kept] at inside
    exact (congrArg Span.mk kept).trans (Span.min_eq_left inside).symm
  · rw [none]
    have beyond : Span.longest.nanos ≤ w.span.nanos * k.toNat := by
      have most : 18446744073709551616 ≤ w.seconds.toNat * k.toNat + w.nanos.toNat * k.toNat / 1000000000 := most
      rw [total]
      show 18446744073709551616 * 1000000000 - 1 ≤ _
      omega
    exact span_longest.trans (Span.min_eq_right beyond).symm

theorem span_min (v w : Words) : (v.min w).span = v.span.min w.span := by
  have hv := v.nanos_lt
  have hw := w.nanos_lt
  have order : (v.seconds < w.seconds ∨ v.seconds = w.seconds ∧ v.nanos ≤ w.nanos) ↔
      v.span.nanos ≤ w.span.nanos := by
    rw [UInt64.lt_iff_toNat_lt, ← UInt64.toNat_inj, UInt32.le_iff_toNat_le]
    show _ ↔ v.seconds.toNat * 1000000000 + v.nanos.toNat ≤ w.seconds.toNat * 1000000000 + w.nanos.toNat
    omega
  unfold min
  split
  · next shorter => exact (Span.min_eq_left (order.mp shorter)).symm
  · next longer =>
    have least : w.span.nanos ≤ v.span.nanos := Nat.le_of_not_le fun shorter => longer (order.mpr shorter)
    exact (Span.min_eq_right least).symm

/-! ### Doubling the base -/

theorem toNat_doublings (attempts : UInt32) :
    ((1 : UInt32) <<< Min.min attempts 16).toNat = 2 ^ Nat.min attempts.toNat 16 := by
  have least : (Min.min attempts 16).toNat = Nat.min attempts.toNat 16 := by
    show (if attempts ≤ 16 then attempts else 16).toNat = Nat.min attempts.toNat 16
    split
    · next few => exact (Nat.min_eq_left (UInt32.le_iff_toNat_le.mp few)).symm
    · next many => exact (Nat.min_eq_right (Nat.le_of_not_le (mt UInt32.le_iff_toNat_le.mpr many))).symm
  have few : Nat.min attempts.toNat 16 ≤ 16 := Nat.min_le_right _ _
  have inside : 2 ^ Nat.min attempts.toNat 16 < 2 ^ 32 := Nat.pow_lt_pow_right (by decide) (by omega)
  rw [UInt32.toNat_shiftLeft, least, Nat.mod_eq_of_lt (Nat.lt_of_le_of_lt few (by decide)), UInt32.toNat_one,
    Nat.one_shiftLeft]
  exact Nat.mod_eq_of_lt inside

theorem span_backoff (base ceiling : Words) (attempts : UInt32) :
    (base.backoff ceiling attempts).span = BrokerFleet.backoff base.span ceiling.span attempts.toNat := by
  rw [backoff, span_min, span_times, toNat_doublings]
  rfl

end Words

end Span

variable {base ceiling : Span}

theorem nanos_backoff (base : Span) (below : ceiling.nanos ≤ Span.longest.nanos) (attempts : Nat) :
    (backoff base ceiling attempts).nanos = Nat.min ceiling.nanos (base.nanos * 2 ^ Nat.min attempts 16) := calc
  (backoff base ceiling attempts).nanos
      = Nat.min (Nat.min (base.nanos * 2 ^ Nat.min attempts 16) Span.longest.nanos) ceiling.nanos := rfl
  _ = Nat.min (base.nanos * 2 ^ Nat.min attempts 16) (Nat.min Span.longest.nanos ceiling.nanos) := Nat.min_assoc _ _ _
  _ = Nat.min (base.nanos * 2 ^ Nat.min attempts 16) ceiling.nanos := congrArg _ (Nat.min_eq_right below)
  _ = Nat.min ceiling.nanos (base.nanos * 2 ^ Nat.min attempts 16) := Nat.min_comm _ _

theorem backoff_floor (base : Span) (below : ceiling.nanos ≤ Span.longest.nanos) (attempts : Nat) :
    Nat.min base.nanos ceiling.nanos ≤ (backoff base ceiling attempts).nanos := by
  have doubled : base.nanos ≤ base.nanos * 2 ^ Nat.min attempts 16 := Nat.le_mul_of_pos_right _ (Nat.two_pow_pos _)
  rw [nanos_backoff base below]
  exact Nat.le_min.mpr ⟨Nat.min_le_right _ _, Nat.le_trans (Nat.min_le_left _ _) doubled⟩

theorem backoff_mono (base : Span) (below : ceiling.nanos ≤ Span.longest.nanos) {m n : Nat} (less : m ≤ n) :
    (backoff base ceiling m).nanos ≤ (backoff base ceiling n).nanos := by
  have doublings : Nat.min m 16 ≤ Nat.min n 16 :=
    Nat.le_min.mpr ⟨Nat.le_trans (Nat.min_le_left _ _) less, Nat.min_le_right _ _⟩
  have grown : base.nanos * 2 ^ Nat.min m 16 ≤ base.nanos * 2 ^ Nat.min n 16 :=
    Nat.mul_le_mul_left _ (Nat.pow_le_pow_right (by decide) doublings)
  rw [nanos_backoff base below, nanos_backoff base below]
  exact Nat.le_min.mpr ⟨Nat.min_le_left _ _, Nat.le_trans (Nat.min_le_right _ _) grown⟩

/-- For all lengths of time that two words hold, the delay is the one that is computed in words, and it is the base
doubled with each attempt, sixteen times at most, or the ceiling if that is shorter. So it stays between the shorter of
the two and the ceiling, and more attempts never make it shorter. -/
theorem delay_doubles_up_to_ceiling (base ceiling : Span.Words) :
    (∀ attempts : UInt32,
      backoff base.span ceiling.span attempts.toNat = (base.backoff ceiling attempts).span ∧
      (backoff base.span ceiling.span attempts.toNat).nanos =
        Nat.min ceiling.span.nanos (base.span.nanos * 2 ^ Nat.min attempts.toNat 16) ∧
      (backoff base.span ceiling.span attempts.toNat).nanos ≤ ceiling.span.nanos ∧
      Nat.min base.span.nanos ceiling.span.nanos ≤ (backoff base.span ceiling.span attempts.toNat).nanos) ∧
    (∀ m n : UInt32, m ≤ n →
      (backoff base.span ceiling.span m.toNat).nanos ≤ (backoff base.span ceiling.span n.toNat).nanos) ∧
    ∀ d : Span, d.nanos ≤ Span.longest.nanos ↔ ∃ w : Span.Words, w.span = d := by
  have below := ceiling.nanos_span_le
  refine ⟨fun attempts => ⟨(base.span_backoff ceiling attempts).symm, nanos_backoff base.span below _,
    Nat.min_le_right _ _, backoff_floor base.span below _⟩, fun m n less => ?_, Span.Words.le_longest_iff⟩
  exact backoff_mono base.span below (UInt32.le_iff_toNat_le.mp less)

def shortWords : Span.Words :=
  ⟨1, 0, by decide⟩

def longWords : Span.Words :=
  ⟨9223372036854775808, 500000000, by decide⟩

/-- In three attempts a second grows to eight; where even the first doubling runs over its word, the delay is the
ceiling. -/
theorem long_delay_cut_off : (3 : UInt32) ≤ 10 ∧
    (backoff shortWords.span longWords.span 3).nanos = 8000000000 ∧
    (backoff shortWords.span longWords.span 3).nanos ≤ (backoff shortWords.span longWords.span 10).nanos ∧
    backoff longWords.span Span.Words.longest.span 5 = Span.Words.longest.span := by
  have few : (3 : UInt32) ≤ 10 := by decide
  obtain ⟨doubles, grows, -⟩ := delay_doubles_up_to_ceiling shortWords longWords
  obtain ⟨cut, -, -⟩ := delay_doubles_up_to_ceiling longWords Span.Words.longest
  refine ⟨few, (doubles 3).2.1.trans (by decide +kernel), grows 3 10 few, ?_⟩
  exact Span.eq_of_nanos ((cut 5).2.1.trans (by decide +kernel))

end BrokerFleet
