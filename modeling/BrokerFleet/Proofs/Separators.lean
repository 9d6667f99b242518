import BrokerFleet.Text.Split

/-!
Text that is put together around a separator comes apart into the same parts: at the first separator if there is none in
front of it, at the last one if none follows.
-/

namespace BrokerFleet.Text

variable {α : Type} {sep x : α} {xs front rest : List α}

theorem exists_last (member : sep ∈ xs) : ∃ front rest, xs = front ++ sep :: rest ∧ sep ∉ rest := by
  obtain ⟨after, before, same, free⟩ := List.eq_append_cons_of_mem (List.mem_reverse.mpr member)
  refine ⟨before.reverse, after.reverse, ?_, mt List.mem_reverse.mp free⟩
  rw [← List.reverse_reverse xs, same, List.reverse_append, List.reverse_cons, List.append_assoc,
    List.singleton_append]

variable [BEq α] [LawfulBEq α]

theorem not_beq_of_not_mem (free : sep ∉ x :: xs) : ¬ (x == sep) = true :=
  fun same => List.ne_of_not_mem_cons free (beq_iff_eq.mp same).symm

/-! ### The first separator -/

theorem splitFirst?_append (free : sep ∉ front) : splitFirst? sep (front ++ sep :: rest) = some (front, rest) := by
  induction front with
  | nil => exact if_pos (beq_self_eq_true sep)
  | cons x front ih =>
      rw [List.cons_append, splitFirst?, if_neg (not_beq_of_not_mem free), ih (List.not_mem_of_not_mem_cons free)]
      rfl

theorem beforeFirst_append (free : sep ∉ front) : beforeFirst sep (front ++ sep :: rest) = front := by
  unfold beforeFirst
  rw [List.takeWhile_append_of_pos]
  · simp
  · intro x member
    exact bne_iff_ne.mpr fun same => free (same ▸ member)

theorem splitAll_of_not_mem (free : sep ∉ xs) : splitAll sep xs = [xs] := by
  induction xs with
  | nil => rfl
  | cons x xs ih => rw [splitAll, if_neg (not_beq_of_not_mem free), ih (List.not_mem_of_not_mem_cons free)]

theorem splitAll_append (free : sep ∉ front) : splitAll sep (front ++ sep :: rest) = front :: splitAll sep rest := by
  induction front with
  | nil => exact if_pos (beq_self_eq_true sep)
  | cons x front ih =>
      rw [List.cons_append, splitAll, if_neg (not_beq_of_not_mem free), ih (List.not_mem_of_not_mem_cons free)]

/-! ### The last separator -/

theorem splitLast?_of_not_mem (free : sep ∉ xs) : splitLast? sep xs = none := by
  induction xs with
  | nil => rfl
  | cons x xs ih =>
      rw [splitLast?, ih (List.not_mem_of_not_mem_cons free)]
      exact if_neg (not_beq_of_not_mem free)

theorem splitLast?_append (free : sep ∉ rest) : splitLast? sep (front ++ sep :: rest) = some (front, rest) := by
  induction front with
  | nil =>
      rw [List.nil_append, splitLast?, splitLast?_of_not_mem free]
      exact if_pos (beq_self_eq_true sep)
  | cons x front ih => rw [List.cons_append, splitLast?, ih]

theorem afterLast_of_not_mem (free : sep ∉ xs) : afterLast sep xs = xs := by
  rw [afterLast, splitLast?_of_not_mem free]

theorem afterLast_append (free : sep ∉ rest) : afterLast sep (front ++ sep :: rest) = rest := by
  rw [afterLast, splitLast?_append free]

end BrokerFleet.Text
