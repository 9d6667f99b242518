import BrokerFleet.Kubernetes.Shape
import BrokerFleet.Proofs.Json.Merging

/-!
What is read of a value against a shape. A member is read against the shape of its name, and what is read of it depends
on that member alone; so values that agree in the members that have a shape are read alike.
-/

namespace BrokerFleet

open Json

namespace Kubernetes

/-- How a member is read, that is always written or not: by what was given of it, and what is written. -/
inductive Shape.ReadsMember (shape : Shape) (always : Bool) : Option Json → Option Json → Prop where
  | absent {given : Option Json} (missing : given = none ∨ (given = some .null ∧ shape.isConstant = false)) :
      ReadsMember shape always given (if always then some shape.default else none)
  | present {value normal : Json} (solid : value ≠ .null) (reads : shape.normalize? value = some normal) :
      ReadsMember shape always (some value) (some normal)

theorem Shape.ReadsMember.unique {shape : Shape} {always : Bool} {given first second : Option Json}
    (reads : shape.ReadsMember always given first) (again : shape.ReadsMember always given second) :
    first = second := by
  cases reads with
  | absent missing =>
      cases again with
      | absent _ => rfl
      | present solid _ => simp [solid] at missing
  | present solid reads =>
      cases again with
      | absent missing => simp [solid] at missing
      | present _ reads' => exact reads.symm.trans reads'

namespace MemberShapes

variable {name : String} {always : Bool} {shape : Shape} {rest shapes : MemberShapes} {given given' out : Members}

def names : MemberShapes → List String
  | .nil => []
  | .cons name _ _ rest => name :: rest.names

/-- The shape of a name, and whether the member is always written. -/
def find? (name : String) : MemberShapes → Option (Bool × Shape)
  | .nil => none
  | .cons other always shape rest => if other = name then some (always, shape) else rest.find? name

theorem find?_of_notMem : ∀ {shapes : MemberShapes}, name ∉ shapes.names → shapes.find? name = none
  | .nil, _ => rfl
  | .cons other _ _ rest, absent => by
      obtain ⟨differs, absent⟩ := not_or.mp (mt List.mem_cons.mpr absent)
      rw [find?, if_neg fun same => differs same.symm, find?_of_notMem absent]

theorem normalize?_cons : (MemberShapes.cons name always shape rest).normalize? given = some out ↔
    ∃ others normal, rest.normalize? given = some others ∧ shape.ReadsMember always (lookup name given) normal ∧
      out = normal.elim others (insert name · others) := by
  rw [normalize?, Option.bind_eq_bind, Option.bind_eq_some_iff]
  have default : ∀ others : Members, (if always = true then insert name shape.default others else others) =
      (if always = true then some shape.default else none).elim others (insert name · others) := by
    intro others
    cases always <;> rfl
  constructor
  · rintro ⟨others, later, here⟩
    split at here
    · next missing =>
      cases here
      exact ⟨others, _, later, .absent (.inl missing), default others⟩
    · next null =>
      split at here
      · cases here
      · next free =>
        cases here
        exact ⟨others, _, later, .absent (.inr ⟨null, Bool.eq_false_iff.mpr free⟩), default others⟩
    · next value solid there =>
      obtain ⟨normal, reads, done⟩ := Option.bind_eq_some_iff.mp here
      cases done
      rw [there]
      exact ⟨others, some normal, later, .present solid reads, rfl⟩
  · rintro ⟨others, normal, later, reads, rfl⟩
    refine ⟨others, later, ?_⟩
    generalize lookup name given = shown at reads
    cases reads with
    | absent missing => rcases missing with rfl | ⟨rfl, free⟩ <;> simp_all
    | present solid reads => simp [reads]

theorem lookup_normalize?_of_notMem : ∀ {shapes : MemberShapes} {out : Members}, name ∉ shapes.names →
    shapes.normalize? given = some out → lookup name out = none
  | .nil, _, _, read => by
      cases read
      rfl
  | .cons other always shape rest, _, absent, read => by
      obtain ⟨differs, absent⟩ := not_or.mp (mt List.mem_cons.mpr absent)
      obtain ⟨others, normal, later, -, rfl⟩ := normalize?_cons.mp read
      have follows := lookup_normalize?_of_notMem absent later
      cases normal with
      | none => exact follows
      | some value =>
          show lookup name (insert other value others) = none
          rw [lookup_insert, if_neg fun same => differs same.symm, follows]

theorem lookup_normalize? : ∀ {shapes : MemberShapes} {out : Members}, shapes.names.Nodup →
    shapes.find? name = some (always, shape) → shapes.normalize? given = some out →
    shape.ReadsMember always (lookup name given) (lookup name out)
  | .nil, _, _, found, _ => nomatch found
  | .cons other _ _ rest, _, distinct, found, read => by
      obtain ⟨apart, distinct⟩ := List.nodup_cons.mp distinct
      obtain ⟨others, normal, later, reads, rfl⟩ := normalize?_cons.mp read
      by_cases named : other = name
      · subst named
        rw [find?, if_pos rfl] at found
        cases found
        have shown : lookup other (normal.elim others (insert other · others)) = normal := by
          cases normal with
          | none => exact lookup_normalize?_of_notMem apart later
          | some value => exact lookup_insert.trans (if_pos rfl)
        rwa [shown]
      · rw [find?, if_neg named] at found
        have shown : lookup name (normal.elim others (insert other · others)) = lookup name others := by
          cases normal with
          | none => rfl
          | some value => exact lookup_insert.trans (if_neg named)
        rw [shown]
        exact lookup_normalize? distinct found later

theorem lookup_normalize?_congr (same : lookup name given' = lookup name given) :
    ∀ {shapes : MemberShapes} {out out' : Members}, shapes.normalize? given = some out →
      shapes.normalize? given' = some out' → lookup name out' = lookup name out
  | .nil, _, _, read, read' => by
      cases read
      cases read'
      rfl
  | .cons other _ _ rest, _, _, read, read' => by
      obtain ⟨others, normal, later, reads, rfl⟩ := normalize?_cons.mp read
      obtain ⟨others', normal', later', reads', rfl⟩ := normalize?_cons.mp read'
      have follows := lookup_normalize?_congr same later later'
      have shown : ∀ (normal : Option Json) (others : Members),
          lookup name (normal.elim others (insert other · others)) =
            if other = name then normal.or (lookup name others) else lookup name others := by
        intro normal others
        cases normal with
        | none => simp
        | some value => exact lookup_insert
      rw [shown, shown, follows]
      split
      · next named =>
        subst named
        rw [same] at reads'
        rw [reads'.unique reads]
      · rfl

theorem normalize?_congr : ∀ {shapes : MemberShapes},
    (∀ name ∈ shapes.names, lookup name given' = lookup name given) → shapes.normalize? given' = shapes.normalize? given
  | .nil, _ => rfl
  | .cons name always shape rest, agree => by
      rw [normalize?, normalize?, agree name List.mem_cons_self,
        normalize?_congr fun other member => agree other (List.mem_cons_of_mem _ member)]

theorem normalize?_changed (same : ∀ other, other ≠ name → lookup other given' = lookup other given)
    (reads : ∃ normal, shape.ReadsMember always (lookup name given') normal) :
    ∀ {shapes : MemberShapes} {out : Members}, shapes.names.Nodup → shapes.find? name = some (always, shape) →
      shapes.normalize? given = some out → ∃ out', shapes.normalize? given' = some out'
  | .nil, _, _, found, _ => nomatch found
  | .cons other always' shape' rest, _, distinct, found, read => by
      obtain ⟨apart, distinct⟩ := List.nodup_cons.mp distinct
      obtain ⟨others, normal, later, here, -⟩ := normalize?_cons.mp read
      by_cases named : other = name
      · subst named
        rw [find?, if_pos rfl] at found
        cases found
        obtain ⟨normal, reads⟩ := reads
        have agree : ∀ name ∈ rest.names, lookup name given' = lookup name given := by
          intro name member
          exact same name fun named => apart (named ▸ member)
        exact ⟨_, normalize?_cons.mpr ⟨others, normal, (normalize?_congr agree).trans later, reads, rfl⟩⟩
      · rw [find?, if_neg named] at found
        obtain ⟨others', later'⟩ := normalize?_changed same reads distinct found later
        rw [← same other named] at here
        exact ⟨_, normalize?_cons.mpr ⟨others', normal, later', here, rfl⟩⟩

end MemberShapes

theorem filter_insert {keep : String → Bool} {name : String} {value : Json} {members : Members}
    (dropped : keep name = false) :
    (Json.insert name value members).filter (fun member => keep member.1) =
      members.filter fun member => keep member.1 := by
  induction members with
  | nil => simp [Json.insert, dropped]
  | cons member rest ih =>
      obtain ⟨other, _⟩ := member
      unfold Json.insert
      split
      · next same =>
        obtain rfl := beq_iff_eq.mp same
        simp [dropped]
      · split
        · simp [dropped]
        · rw [List.filter_cons, List.filter_cons, ih]

theorem MemberShapes.filter_normalize? {keep : String → Bool} {rest : MemberShapes} {given : Members} :
    ∀ {front : List (String × Shape)} {out : Members}, (∀ member ∈ front, keep member.1 = false) →
      (Shape.optional front rest).normalize? given = some out → ∃ others, rest.normalize? given = some others ∧
        out.filter (fun member => keep member.1) = others.filter fun member => keep member.1
  | [], out, _, read => ⟨out, read, rfl⟩
  | (name, shape) :: front, _, dropped, read => by
      obtain ⟨others, normal, later, -, rfl⟩ := normalize?_cons.mp read
      have behind := fun member among => dropped member (List.mem_cons_of_mem _ among)
      obtain ⟨first, shown, same⟩ := filter_normalize? behind later
      refine ⟨first, shown, Eq.trans ?_ same⟩
      cases normal with
      | none => rfl
      | some value => exact filter_insert (dropped _ List.mem_cons_self)

namespace Shape

variable {shapes : MemberShapes} {value normal : Json} {name : String} {always : Bool} {shape : Shape}

theorem normalize?_object (read : (Shape.object shapes).normalize? value = some normal) :
    ∃ given out, value = .object given ∧ normal = .object out ∧ shapes.normalize? given = some out := by
  cases value with
  | object given =>
      obtain ⟨out, members, rfl⟩ := Option.map_eq_some_iff.mp read
      exact ⟨given, out, rfl, rfl, members⟩
  | _ => cases read

theorem readsMember_of_object (read : (Shape.object shapes).normalize? value = some normal)
    (distinct : shapes.names.Nodup) (found : shapes.find? name = some (always, shape)) :
    shape.ReadsMember always (value.field? name) (normal.field? name) := by
  obtain ⟨given, out, rfl, rfl, members⟩ := normalize?_object read
  exact MemberShapes.lookup_normalize? distinct found members

theorem normalize?_merge {p : Json} (read : (Shape.object shapes).normalize? value = some normal)
    (distinct : shapes.names.Nodup) (found : shapes.find? name = some (always, shape)) (solid : p ≠ .null)
    (merged : ((value.field? name).getD .null).merge p ≠ .null)
    (inner : ∃ normal, shape.normalize? (((value.field? name).getD .null).merge p) = some normal) :
    ∃ normal', (Shape.object shapes).normalize? (value.merge (.object [(name, p)])) = some normal' := by
  obtain ⟨given, out, rfl, rfl, members⟩ := normalize?_object read
  obtain ⟨normal, inner⟩ := inner
  have here := field?_merge_self (.object given) name solid
  have others : ∀ other, other ≠ name →
      (Json.merge (.object given) (.object [(name, p)])).field? other = lookup other given :=
    fun other differs => field?_merge_other differs
  obtain ⟨given', object⟩ : ∃ given', Json.merge (.object given) (.object [(name, p)]) = .object given' :=
    ⟨_, merge_object⟩
  rw [object] at here others ⊢
  have reads : shape.ReadsMember always (lookup name given') (some normal) := by
    rw [show lookup name given' = some _ from here]
    exact .present merged inner
  obtain ⟨out', members'⟩ := MemberShapes.normalize?_changed others ⟨_, reads⟩ distinct found members
  exact ⟨.object out', Option.map_eq_some_iff.mpr ⟨out', members', rfl⟩⟩

end Shape

end Kubernetes

end BrokerFleet
