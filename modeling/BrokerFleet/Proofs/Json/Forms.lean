import BrokerFleet.Json.Reader
import Mathlib.Data.List.Nodup

/-!
JSON forms that lose nothing. A value of a type with a lawful form is read back from what is written of it, also when the
members of its records come back in another order: a reader goes by their names. A member that is left out is one that
the reader has the same default for.
-/

namespace BrokerFleet

namespace Json

def present (members : List (String × Option Json)) : Members :=
  members.filterMap fun (name, value) => value.map (name, ·)

/-- A way to look at values that keeps what readers go by: texts, numbers, the order of items, and the members of a record
by their names. -/
structure Faithful (view : Json → Json) : Prop where
  string : ∀ s, view (.string s) = .string s
  int : ∀ n, view (.int n) = .int n
  array : ∀ items, view (.array items) = .array (items.map view)
  record : ∀ members : List (String × Option Json), (members.map (·.1)).Nodup →
    ∃ found, view (record members) = .object found ∧
      ∀ name, lookup name found = ((members.find? (·.1 == name)).bind (·.2)).map view

/-- What is written of a value is read as that value. -/
class Lawful (α : Type) [FromJson α] [ToJson α] : Prop where
  solid : ∀ {view : Json → Json}, Faithful view → ∀ a : α, view (toJson a) ≠ .null
  reads : ∀ {view : Json → Json}, Faithful view → ∀ a : α, ofJson? (view (toJson a)) = some a

variable {view : Json → Json} {name : String} {value : Json} {members : List (String × Option Json)}

/-! ### Members by name -/

theorem lookup_cons {member : String × Json} {rest : Members} :
    lookup name (member :: rest) = if member.1 = name then some member.2 else lookup name rest := by
  unfold lookup
  by_cases here : member.1 = name
  · simp [here]
  · simp [here]

theorem lookup_present_of_notMem (absent : name ∉ members.map (·.1)) : lookup name (present members) = none := by
  refine Option.map_eq_none_iff.mpr (List.find?_eq_none.mpr fun member there named => absent ?_)
  obtain ⟨⟨other, value⟩, listed, shown⟩ := List.mem_filterMap.mp there
  obtain ⟨value, rfl, rfl⟩ := Option.map_eq_some_iff.mp shown
  exact List.mem_map.mpr ⟨_, listed, beq_iff_eq.mp named⟩

theorem lookup_present (distinct : (members.map (·.1)).Nodup) :
    lookup name (present members) = (members.find? (·.1 == name)).bind (·.2) := by
  induction members with
  | nil => rfl
  | cons member rest ih =>
      obtain ⟨other, value⟩ := member
      obtain ⟨apart, distinct⟩ := List.nodup_cons.mp distinct
      rw [List.find?_cons]
      by_cases here : other = name
      · subst here
        rw [beq_self_eq_true]
        cases value with
        | none =>
            show lookup other (present rest) = none
            exact lookup_present_of_notMem apart
        | some value => exact lookup_cons.trans (if_pos rfl)
      · rw [beq_eq_false_iff_ne.mpr here, ← ih distinct]
        cases value with
        | none => rfl
        | some value => exact lookup_cons.trans (if_neg here)

theorem lookup_insert {other : String} {members : Members} :
    lookup name (insert other value members) = if other = name then some value else lookup name members := by
  induction members with
  | nil => exact lookup_cons
  | cons member rest ih =>
      obtain ⟨k, v⟩ := member
      unfold insert
      split
      · next same =>
        rw [beq_iff_eq] at same
        subst same
        rw [lookup_cons, lookup_cons]
        split <;> rfl
      · next differs =>
        rw [beq_iff_eq] at differs
        split
        · exact lookup_cons
        · rw [lookup_cons, ih, lookup_cons]
          by_cases here : k = name
          · subst here
            rw [if_pos rfl, if_neg fun same => differs same.symm, if_pos rfl]
          · rw [if_neg here, if_neg here]

theorem lookup_eq_none {members : Members} : lookup name members = none ↔ name ∉ members.map (·.1) := by
  rw [lookup, Option.map_eq_none_iff, List.find?_eq_none]
  constructor
  · intro missing member
    obtain ⟨found, there, named⟩ := List.mem_map.mp member
    exact missing found there (beq_iff_eq.mpr named)
  · intro missing found there named
    exact missing (List.mem_map.mpr ⟨found, there, beq_iff_eq.mp named⟩)

theorem lookup_sortedMembers {members done : Members} (distinct : (members.map (·.1)).Nodup) :
    lookup name (sortedMembers members done) = ((lookup name members).map sorted).or (lookup name done) := by
  induction members generalizing done with
  | nil => rfl
  | cons member rest ih =>
      obtain ⟨other, value⟩ := member
      obtain ⟨apart, distinct⟩ := List.nodup_cons.mp distinct
      rw [sortedMembers, ih distinct, lookup_insert, lookup_cons]
      by_cases here : other = name
      · subst here
        rw [lookup_eq_none.mpr apart, if_pos rfl, if_pos rfl]
        rfl
      · rw [if_neg here, if_neg here]

theorem present_distinct (distinct : (members.map (·.1)).Nodup) : ((present members).map (·.1)).Nodup := by
  refine List.Nodup.sublist ?_ distinct
  induction members with
  | nil => exact .slnil
  | cons member rest ih =>
      obtain ⟨other, value⟩ := member
      have ih := ih (List.nodup_cons.mp distinct).2
      cases value with
      | none => exact .cons other ih
      | some value => exact .cons_cons other ih

theorem faithful_id : Faithful id where
  string _ := rfl
  int _ := rfl
  array items := by rw [List.map_id, id]
  record members distinct := ⟨present members, rfl, fun name => by rw [Option.map_id, id, lookup_present distinct]⟩

theorem sortedItems_eq_map (items : List Json) : sortedItems items = items.map sorted := by
  induction items with
  | nil => rfl
  | cons item rest ih => rw [sortedItems, ih, List.map_cons]

theorem faithful_sorted : Faithful sorted where
  string _ := by simp only [sorted]
  int _ := by simp only [sorted]
  array items := by rw [sorted, sortedItems_eq_map]
  record members distinct := by
    refine ⟨sortedMembers (present members) [], by rw [record, sorted]; rfl, fun name => ?_⟩
    rw [lookup_sortedMembers (present_distinct distinct), lookup_present distinct]
    exact Option.or_none

/-! ### Fields of records -/

def FieldsOf (view : Json → Json) (members : List (String × Option Json)) (f : Fields) : Prop :=
  ∀ name, f name = ((members.find? (·.1 == name)).bind (·.2)).map view

theorem Lawful.of_record {α : Type} [FromJson α] [ToJson α] (names : List String) (distinct : names.Nodup)
    (members : α → List (String × Option Json)) (written : ∀ a, toJson a = record (members a))
    (named : ∀ a, (members a).map (·.1) = names) (read? : Fields → Option α)
    (reading : ∀ value, ofJson? value = (fields? names value).bind read?)
    (reads : ∀ {view : Json → Json}, Faithful view → ∀ a f, FieldsOf view (members a) f → read? f = some a) :
    Lawful α where
  solid faithful a := by
    obtain ⟨found, same, -⟩ := faithful.record (members a) (named a ▸ distinct)
    rw [written, same]
    exact fun null => nomatch null
  reads faithful a := by
    obtain ⟨found, same, known⟩ := faithful.record (members a) (named a ▸ distinct)
    rw [written, reading, same]
    exact reads faithful a _ known

theorem Lawful.of_word {α : Type} [FromJson α] [ToJson α] (word : α → String)
    (written : ∀ a, toJson a = .string (word a)) (reads : ∀ a, ofJson? (.string (word a)) = some a) : Lawful α where
  solid faithful a := by
    rw [written, faithful.string]
    exact fun null => nomatch null
  reads faithful a := by rw [written, faithful.string, reads]

/-! ### Texts, numbers and lists -/

instance : Lawful String where
  solid faithful s := by
    rw [show toJson s = .string s from rfl, faithful.string]
    exact fun null => nomatch null
  reads faithful s := by
    rw [show toJson s = .string s from rfl, faithful.string]
    rfl

instance : Lawful Int32 where
  solid faithful n := by
    rw [show toJson n = .int n.toInt from rfl, faithful.int]
    exact fun null => nomatch null
  reads faithful n := by
    rw [show toJson n = .int n.toInt from rfl, faithful.int]
    have within : Int32.minValue.toInt ≤ n.toInt ∧ n.toInt ≤ Int32.maxValue.toInt :=
      ⟨Int32.le_toInt n, Int32.toInt_le n⟩
    exact (if_pos within).trans (congrArg some (Int32.ofInt_toInt n))

instance : Lawful Int64 where
  solid faithful n := by
    rw [show toJson n = .int n.toInt from rfl, faithful.int]
    exact fun null => nomatch null
  reads faithful n := by
    rw [show toJson n = .int n.toInt from rfl, faithful.int]
    have within : Int64.minValue.toInt ≤ n.toInt ∧ n.toInt ≤ Int64.maxValue.toInt :=
      ⟨Int64.le_toInt n, Int64.toInt_le n⟩
    exact (if_pos within).trans (congrArg some (Int64.ofInt_toInt n))

instance {α : Type} [FromJson α] [ToJson α] [Lawful α] : Lawful (List α) where
  solid faithful items := by
    rw [show toJson items = .array (items.map toJson) from rfl, faithful.array]
    exact fun null => nomatch null
  reads faithful items := by
    rw [show toJson items = .array (items.map toJson) from rfl, faithful.array]
    show ((items.map toJson).map _).mapM ofJson? = some items
    induction items with
    | nil => rfl
    | cons item rest ih =>
        rw [List.map_cons, List.map_cons, List.mapM_cons, Lawful.reads faithful item, ih]
        rfl

/-! ### Fields that may be left out -/

section

variable {α : Type} [FromJson α] [ToJson α] [Lawful α] {f : Fields} (faithful : Faithful view)
include faithful

theorem Fields.required?_of {a : α} (there : f name = some (view (toJson a))) : f.required? name = some a := by
  unfold Fields.required?
  rw [there]
  exact Lawful.reads faithful a

theorem Fields.withDefault?_of {a d : α} (there : f name = some (view (toJson a))) :
    f.withDefault? name d = some a := by
  unfold Fields.withDefault?
  rw [there]
  exact Lawful.reads faithful a

theorem ofJson?_some (a : α) : (ofJson? (view (toJson a)) : Option (Option α)) = some (some a) := by
  have read := Lawful.reads faithful a
  have solid := Lawful.solid faithful a
  cases seen : view (toJson a) with
  | null => exact absurd seen solid
  | _ =>
      rw [seen] at read
      exact (congrArg (Option.map some) read :)

theorem Fields.withDefault?_empty {l : List α} (there : f name = (unlessEmpty (l.map toJson)).map view) :
    f.withDefault? name [] = some l := by
  cases l with
  | nil =>
      unfold Fields.withDefault?
      rw [there]
      rfl
  | cons item rest =>
      refine Fields.withDefault?_of faithful (there.trans ?_)
      rfl

theorem Fields.optional?_of {a : Option α} (there : f name = (a.map toJson).map view) :
    f.optional? name = some a := by
  unfold Fields.optional? Fields.withDefault?
  rw [there]
  cases a with
  | none => rfl
  | some a => exact ofJson?_some faithful a

end

theorem Fields.withDefault?_blank {f : Fields} {text : String} (faithful : Faithful view)
    (there : f name = (unlessBlank text).map view) : f.withDefault? name "" = some text := by
  by_cases blank : text.isEmpty = true
  · obtain rfl : text = "" := by simpa using blank
    unfold Fields.withDefault?
    rw [there]
    rfl
  · refine Fields.withDefault?_of faithful (there.trans ?_)
    rw [unlessBlank, if_neg blank]
    rfl

end Json

end BrokerFleet
