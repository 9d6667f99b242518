import BrokerFleet.Cluster.Condition
import Mathlib.Data.List.Nodup

/-!
What entering a condition does to a list of conditions. A list that holds one condition of each type keeps
doing so; what it says of the type that was entered is what was entered, and of other types what it said
before.
-/

namespace BrokerFleet

@[simp] theorem ConditionStatus.ofBool_eq_true {b : Bool} : (ofBool b = .true) = (b = Bool.true) := by
  cases b <;> simp [ofBool]

@[simp] theorem Condition.holds_new {type reason message : String} {b : Bool} :
    (Condition.new type b reason message).holds = b := by
  cases b <;> rfl

namespace Conditions

variable {conditions : Conditions} {c : Condition} {now : Instant}

/-- No type has two conditions. -/
def Distinct (conditions : Conditions) : Prop :=
  (conditions.map (·.type)).Nodup

theorem Distinct.eq_of_type_eq (distinct : conditions.Distinct) {a b : Condition}
    (ha : a ∈ conditions) (hb : b ∈ conditions) (same : a.type = b.type) : a = b :=
  List.inj_on_of_nodup_map distinct ha hb same

theorem find?_type {type : String} (found : conditions.find? type = some c) : c.type = type := by
  have named := List.find?_some found
  exact eq_of_beq named

theorem find?_of_mem (distinct : conditions.Distinct) (member : c ∈ conditions) : conditions.find? c.type = some c := by
  obtain ⟨a, found⟩ := Option.isSome_iff_exists.mp
    (List.find?_isSome.mpr ⟨c, member, beq_self_eq_true c.type⟩ : (List.find? (·.type == c.type) conditions).isSome)
  rwa [distinct.eq_of_type_eq (List.mem_of_find?_eq_some found) member (find?_type found)] at found

theorem holds_iff (distinct : conditions.Distinct) {type : String} :
    conditions.holds type = true ↔ ∃ a ∈ conditions, a.type = type ∧ a.holds = true := by
  simp only [holds, find?, Option.any_eq_true]
  constructor
  · intro h
    rcases h with ⟨a, found, holds⟩
    exact ⟨a, List.mem_of_find?_eq_some found, find?_type found, holds⟩
  · intro h
    rcases h with ⟨a, member, rfl, holds⟩
    exact ⟨a, find?_of_mem distinct member, holds⟩

theorem latestFirst_perm (conditions : Conditions) : conditions.latestFirst.Perm conditions :=
  List.mergeSort_perm _ _

theorem stamp_type {before : Option Condition} {text : String} : (stamp before c text).type = c.type :=
  rfl

theorem stamp_holds {before : Option Condition} {text : String} : (stamp before c text).holds = c.holds :=
  rfl

/-- The list with the condition entered holds it and the conditions of other types, unless it says nothing
new. -/
theorem set_cases (conditions : Conditions) (c : Condition) (now : Instant) :
    (∃ old ∈ conditions, old.type = c.type ∧ old.status = c.status ∧ conditions.set c now = conditions) ∨
    (∃ entered, entered.type = c.type ∧ entered.holds = c.holds ∧
      (conditions.set c now).Perm (entered :: conditions.filter (·.type != c.type))) := by
  unfold set
  dsimp only
  split
  · next same =>
    obtain ⟨old, found, agrees⟩ := (Option.any_eq_true ..).mp same
    simp only [Condition.saysSame, Bool.and_eq_true, beq_iff_eq] at agrees
    exact .inl ⟨old, List.mem_of_find?_eq_some found, find?_type found, agrees.1.1, rfl⟩
  · refine .inr ⟨stamp (conditions.find? c.type) c (Rfc3339.format now), stamp_type, stamp_holds, ?_⟩
    exact latestFirst_perm (stamp (conditions.find? c.type) c (Rfc3339.format now) ::
      conditions.filter (·.type != c.type))

theorem distinct_set (distinct : conditions.Distinct) : (conditions.set c now).Distinct := by
  rcases set_cases conditions c now with
    ⟨old, -, -, -, same⟩ | ⟨entered, type, -, perm⟩
  · rw [same]
    exact distinct
  · apply (perm.map (·.type)).nodup_iff.mpr
    rw [List.map_cons, List.nodup_cons]
    constructor
    · intro member
      obtain ⟨other, kept, typeEq⟩ := List.mem_map.mp member
      have differs := (List.mem_filter.mp kept).2
      simp [typeEq, type] at differs
    · exact distinct.sublist ((List.filter_sublist).map _)

theorem holds_set (distinct : conditions.Distinct) {type : String} :
    (conditions.set c now).holds type = if type = c.type then c.holds else conditions.holds type := by
  rcases set_cases conditions c now with
    ⟨old, member, typeEq, statusEq, same⟩ | ⟨entered, typeEq, holdsEq, perm⟩
  · rw [same]
    split
    · next h =>
      subst h
      rw [Bool.eq_iff_iff, holds_iff distinct]
      constructor
      · intro h
        rcases h with ⟨other, found, otherType, holds⟩
        rw [distinct.eq_of_type_eq found member (otherType.trans typeEq.symm)] at holds
        rwa [Condition.holds, statusEq] at holds
      · intro holds
        refine ⟨old, member, typeEq, ?_⟩
        rwa [Condition.holds, statusEq]
    · rfl
  · have entry : ∀ a : Condition, a ∈ conditions.set c now ↔
        a = entered ∨ a ∈ conditions ∧ a.type ≠ c.type := by
      intro a
      rw [perm.mem_iff, List.mem_cons, List.mem_filter, bne_iff_ne]
    rw [Bool.eq_iff_iff, holds_iff (distinct_set distinct)]
    split
    · next h =>
      subst h
      constructor
      · intro h
        rcases h with ⟨a, member, sameType, holds⟩
        rcases (entry a).mp member with rfl | ⟨-, other⟩
        · rwa [← holdsEq]
        · exact absurd sameType other
      · intro holds
        exact ⟨entered, (entry entered).mpr (.inl rfl), typeEq, by rwa [holdsEq]⟩
    · next h =>
      rw [holds_iff distinct]
      constructor
      · intro h
        rcases h with ⟨a, member, rfl, holds⟩
        rcases (entry a).mp member with rfl | ⟨kept, -⟩
        · exact absurd typeEq h
        · exact ⟨a, kept, rfl, holds⟩
      · intro h
        rcases h with ⟨a, member, rfl, holds⟩
        exact ⟨a, (entry a).mpr (.inr ⟨member, h⟩), rfl, holds⟩

theorem holds_set_new (distinct : conditions.Distinct) {type reason message : String} :
    (conditions.set (.new type true reason message) now).holds type = true :=
  (holds_set distinct).trans ((if_pos rfl).trans Condition.holds_new)

theorem holds_set_new_other (distinct : conditions.Distinct) {type other reason message : String} {b : Bool}
    (differs : other ≠ type) :
    (conditions.set (.new type b reason message) now).holds other = true ↔ conditions.holds other = true :=
  Bool.coe_iff_coe.mpr ((holds_set distinct).trans (if_neg differs))

theorem find?_set (conditions : Conditions) (c : Condition) (now : Instant) :
    ∃ a, (conditions.set c now).find? c.type = some a ∧ a.saysSame c = true := by
  unfold set
  dsimp only
  split
  · next same => exact (Option.any_eq_true ..).mp same
  · next differs =>
    let entered := stamp (conditions.find? c.type) c (Rfc3339.format now)
    have alone : ∀ a ∈ latestFirst (entered :: conditions.filter (·.type != c.type)), a.type = c.type → a = entered := by
      intro a member type
      rcases List.mem_cons.mp ((latestFirst_perm _).mem_iff.mp member) with rfl | kept
      · rfl
      · exact absurd type (bne_iff_ne.mp (List.mem_filter.mp kept).2)
    have there : entered ∈ latestFirst (entered :: conditions.filter (·.type != c.type)) :=
      (latestFirst_perm _).mem_iff.mpr List.mem_cons_self
    refine ⟨entered, ?_, by simp [entered, Condition.saysSame, stamp]⟩
    cases found : Conditions.find? c.type (latestFirst (entered :: conditions.filter (·.type != c.type))) with
    | none =>
        have missing := List.find?_eq_none.mp found entered there
        simp [entered, stamp] at missing
    | some a => rw [alone a (List.mem_of_find?_eq_some found) (find?_type found)]

theorem holds_set_self : (conditions.set c now).holds c.type = c.holds := by
  obtain ⟨a, found, agrees⟩ := find?_set conditions c now
  simp only [Condition.saysSame, Bool.and_eq_true, beq_iff_eq] at agrees
  simp [Conditions.holds, found, Condition.holds, agrees.1.1]

theorem exists_mem_set (conditions : Conditions) (c : Condition) (now : Instant) :
    ∃ a ∈ conditions.set c now, a.type = c.type ∧ a.saysSame c = true := by
  obtain ⟨a, found, agrees⟩ := find?_set conditions c now
  exact ⟨a, List.mem_of_find?_eq_some found, find?_type found, agrees⟩

theorem saysSame_of_mem_set (distinct : conditions.Distinct) {a : Condition} (member : a ∈ conditions.set c now)
    (type : a.type = c.type) : a.saysSame c = true := by
  obtain ⟨entered, there, sameType, agrees⟩ := exists_mem_set conditions c now
  rwa [(distinct_set distinct).eq_of_type_eq member there (type.trans sameType.symm)]

theorem mem_set_other {a : Condition} (other : a.type ≠ c.type) : a ∈ conditions.set c now ↔ a ∈ conditions := by
  rcases set_cases conditions c now with ⟨-, -, -, -, same⟩ | ⟨entered, type, -, perm⟩
  · rw [same]
  · rw [perm.mem_iff, List.mem_cons, List.mem_filter, bne_iff_ne]
    constructor
    · intro h
      rcases h with rfl | ⟨kept, -⟩
      · exact absurd type other
      · exact kept
    · intro kept
      exact .inr ⟨kept, other⟩

end Conditions

end BrokerFleet
