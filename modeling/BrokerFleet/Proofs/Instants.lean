import BrokerFleet.Cluster.Condition
import Mathlib.Data.Int.Order.Basic

/-!
The order of instants, and of times that may be missing: nothing comes first, and then the earlier one.
-/

namespace BrokerFleet

theorem Instant.compare_isLE {a b : Instant} :
    (Ord.compare a b).isLE = true ↔ a.seconds < b.seconds ∨ (a.seconds = b.seconds ∧ a.nanos ≤ b.nanos) := by
  show ((Ord.compare a.seconds b.seconds).then (Ord.compare a.nanos b.nanos)).isLE = true ↔ _
  rw [Ordering.isLE_then_iff_or, compare_lt_iff_lt, compare_eq_iff_eq, Nat.isLE_compare]

theorem instantLe_refl (a : Option Instant) : instantLe a a = true := by
  cases a with
  | none => rfl
  | some a => exact Instant.compare_isLE.mpr (.inr ⟨rfl, Nat.le_refl _⟩)

theorem instantLe_total (a b : Option Instant) : instantLe a b = true ∨ instantLe b a = true := by
  cases a with
  | none => exact .inl rfl
  | some a =>
      cases b with
      | none => exact .inr rfl
      | some b =>
          show (Ord.compare a b).isLE = true ∨ (Ord.compare b a).isLE = true
          rw [Instant.compare_isLE, Instant.compare_isLE]
          omega

theorem instantLe_trans {a b c : Option Instant} (first : instantLe a b = true) (later : instantLe b c = true) :
    instantLe a c = true := by
  cases a with
  | none => rfl
  | some a =>
      cases b with
      | none => cases first
      | some b =>
          cases c with
          | none => cases later
          | some c =>
              have hfirst := Instant.compare_isLE.mp first
              have hlater := Instant.compare_isLE.mp later
              apply Instant.compare_isLE.mpr
              omega

/-- The first time is not later than the second one. One that is unknown is the earliest. -/
def NotLater (a b : Option Instant) : Prop :=
  a = none ∨ ∃ s t, a = some s ∧ b = some t ∧ (s.seconds < t.seconds ∨ s.seconds = t.seconds ∧ s.nanos ≤ t.nanos)

theorem instantLe_iff {a b : Option Instant} : instantLe a b = true ↔ NotLater a b := by
  unfold NotLater
  cases a with
  | none => exact ⟨fun _ => .inl rfl, fun _ => rfl⟩
  | some s =>
      cases b with
      | none => simp [instantLe]
      | some t => simp [instantLe, Instant.compare_isLE]

theorem instantLe_antisymm {a b : Option Instant} (first : instantLe a b = true) (second : instantLe b a = true) :
    a = b := by
  cases a with
  | none =>
      cases b with
      | none => rfl
      | some b => cases second
  | some a =>
      cases b with
      | none => cases first
      | some b =>
          have hfirst := Instant.compare_isLE.mp first
          have hsecond := Instant.compare_isLE.mp second
          have seconds : a.seconds = b.seconds := by omega
          have nanos : a.nanos = b.nanos := by omega
          exact congrArg some (congr (congrArg Instant.mk seconds) nanos)

end BrokerFleet
