import BrokerFleet.Json.Patch
import BrokerFleet.Proofs.Json.Forms

/-!
What a merge patch leaves. Each member of the patch decides on the member of its name alone: `null` takes it away, an
object is merged into it, anything else stands in its place; and the members that the patch does not name stay.
-/

namespace BrokerFleet.Json

def objectMembers : Json → Members
  | .object members => members
  | _ => []

def patched (old : Option Json) : Json → Option Json
  | .null => none
  | p => some ((old.getD .null).merge p)

variable {name other : String} {given patch : Members} {target p : Json} {old : Option Json}

theorem lookup_erase : lookup name (erase other given) = if other = name then none else lookup name given := by
  induction given with
  | nil => simp [erase, lookup]
  | cons member rest ih =>
      unfold erase at ih ⊢
      by_cases here : member.1 = other
      · subst here
        by_cases same : member.1 = name <;> simp_all [lookup_cons]
      · by_cases same : member.1 = name
        · subst same
          simp [lookup_cons, here, Ne.symm here]
        · simp_all [lookup_cons]

theorem field?_eq_lookup : target.field? name = lookup name target.objectMembers := by
  cases target <;> rfl

theorem merge_object : target.merge (.object patch) = .object (mergeMembers target.objectMembers patch) := by
  cases target <;> simp only [merge, objectMembers]

theorem patched_of_ne (solid : p ≠ .null) : patched old p = some ((old.getD .null).merge p) := by
  cases p <;> first | exact absurd rfl solid | rfl

theorem lookup_mergeMembers_cons (given : Members) (other : String) (p : Json) (patch : Members) : ∃ given' : Members,
    mergeMembers given ((other, p) :: patch) = mergeMembers given' patch ∧
      ∀ name, lookup name given' = if other = name then patched (lookup other given) p else lookup name given := by
  by_cases erases : p = .null
  · subst erases
    exact ⟨_, by rw [mergeMembers], fun _ => lookup_erase⟩
  · refine ⟨_, by rw [mergeMembers]; exact erases, fun name => ?_⟩
    rw [lookup_insert, patched_of_ne erases]

theorem lookup_mergeMembers (distinct : (patch.map (·.1)).Nodup) : lookup name (mergeMembers given patch) =
    match lookup name patch with
    | none => lookup name given
    | some p => patched (lookup name given) p := by
  induction patch generalizing given with
  | nil => simp [mergeMembers, lookup]
  | cons change rest ih =>
      obtain ⟨other, p⟩ := change
      obtain ⟨apart, distinct⟩ := List.nodup_cons.mp distinct
      obtain ⟨given', step, known⟩ := lookup_mergeMembers_cons given other p rest
      rw [step, ih distinct, known, lookup_cons]
      by_cases here : other = name
      · subst here
        rw [lookup_eq_none.mpr apart]
        simp
      · simp [here]

theorem field?_merge (distinct : (patch.map (·.1)).Nodup) : (target.merge (.object patch)).field? name =
    match lookup name patch with
    | none => target.field? name
    | some p => patched (target.field? name) p := by
  rw [merge_object, @field?_eq_lookup _ target]
  exact lookup_mergeMembers distinct

/-- A member that is not `null` is merged into the one of its name, be that there or not. -/
theorem field?_merge_of_some (distinct : (patch.map (·.1)).Nodup) (there : lookup name patch = some p)
    (solid : p ≠ .null) :
    (target.merge (.object patch)).field? name = some (((target.field? name).getD .null).merge p) := by
  rw [field?_merge distinct, there]
  exact patched_of_ne solid

theorem field?_merge_self (target : Json) (name : String) (solid : p ≠ .null) :
    (target.merge (.object [(name, p)])).field? name = some (((target.field? name).getD .null).merge p) :=
  field?_merge_of_some (List.nodup_singleton _) (by simp [lookup]) solid

theorem field?_merge_other (differs : name ≠ other) :
    (target.merge (.object [(other, p)])).field? name = target.field? name := by
  have single : ([(other, p)].map (·.1)).Nodup := List.nodup_singleton _
  rw [field?_merge single]
  simp [lookup, Ne.symm differs]

end BrokerFleet.Json
