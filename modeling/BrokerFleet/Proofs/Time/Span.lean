import BrokerFleet.Time.Span

/-!
The order of lengths of time: the shorter of two, and the shortest of several.
-/

namespace BrokerFleet

/-- One of the lengths of time, and none of them is shorter. -/
structure Span.IsShortest (d : Span) (ds : List Span) : Prop where
  among : d ∈ ds
  least : ∀ other ∈ ds, d.nanos ≤ other.nanos

namespace Span

variable {d e : Span} {ds es : List Span}

theorem eq_of_nanos (same : d.nanos = e.nanos) : d = e := by
  cases d
  cases e
  exact congrArg Span.mk same

theorem min_eq_left (below : d.nanos ≤ e.nanos) : d.min e = d :=
  eq_of_nanos (Nat.min_eq_left below)

theorem min_eq_right (below : e.nanos ≤ d.nanos) : d.min e = e :=
  eq_of_nanos (Nat.min_eq_right below)

theorem IsShortest.ne_nil (shortest : d.IsShortest ds) : ds ≠ [] :=
  List.ne_nil_of_mem shortest.among

theorem IsShortest.unique (first : d.IsShortest ds) (second : e.IsShortest ds) : d = e :=
  eq_of_nanos (Nat.le_antisymm (first.least e second.among) (second.least d first.among))

theorem IsShortest.append (first : d.IsShortest ds) (second : e.IsShortest es) :
    (d.min e).IsShortest (ds ++ es) where
  among := by
    rcases Nat.le_total d.nanos e.nanos with below | below
    · rw [min_eq_left below]
      exact List.mem_append_left _ first.among
    · rw [min_eq_right below]
      exact List.mem_append_right _ second.among
  least other member := by
    rcases List.mem_append.mp member with left | right
    · exact Nat.le_trans (Nat.min_le_left _ _) (first.least other left)
    · exact Nat.le_trans (Nat.min_le_right _ _) (second.least other right)

theorem isShortest_singleton (d : Span) : d.IsShortest [d] where
  among := List.mem_singleton_self d
  least _ member := Nat.le_of_eq (congrArg nanos (List.mem_singleton.mp member).symm)

theorem IsShortest.perm (shortest : d.IsShortest ds) (perm : ds.Perm es) : d.IsShortest es where
  among := perm.mem_iff.mp shortest.among
  least other member := shortest.least other (perm.mem_iff.mpr member)

end Span

end BrokerFleet
