import BrokerFleet.Kubernetes.Meta
import BrokerFleet.Proofs.Kubernetes.Documents
import BrokerFleet.Proofs.Kubernetes.Shapes
import BrokerFleet.Proofs.Labels

/-!
Metadata as they are read of a document. The name, the labels and the annotations are the texts that stand at their
places; and metadata that differ in their annotations alone are read alike but for these.
-/

namespace BrokerFleet

open Json Kubernetes Rehearsal

/-! ### Texts by name -/

section

variable {name text : String} {labels : Labels} {value normal : Json} {members : Members}

theorem Json.ofJson?_string : (ofJson? value : Option String) = some text ↔ value = .string text := by
  cases value <;> simp [ofJson?]

def Json.textMembers (labels : Labels) : Members :=
  labels.map fun label => (label.1, .string label.2)

theorem Json.texts_eq : texts labels = .object (textMembers labels) := rfl

@[simp] theorem Json.textMembers_nil : textMembers [] = [] := rfl

@[simp] theorem Json.textMembers_cons {label : String × String} :
    textMembers (label :: labels) = (label.1, .string label.2) :: textMembers labels := rfl

theorem Json.textMembers_names : (textMembers labels).map (·.1) = labels.map (·.1) :=
  List.map_map

theorem Json.mapM_eq_some {α β : Type} {read? : α → Option β} {items : List α} {out : List β} :
    items.mapM read? = some out ↔ List.Forall₂ (fun a b => read? a = some b) items out := by
  induction items generalizing out with
  | nil => simp [eq_comm]
  | cons item rest ih => cases out <;> simp [Option.bind_eq_some_iff, ih]

theorem Json.texts?_eq_some : texts? value = some labels ↔ value = texts labels := by
  cases value with
  | object members =>
      have members : List.Forall₂ (fun (member : String × Json) label =>
          (ofJson? member.2 : Option String).map (member.1, ·) = some label) members labels ↔
            members = textMembers labels := by
        induction members generalizing labels with
        | nil => cases labels <;> simp
        | cons member rest ih =>
            obtain ⟨name, value⟩ := member
            cases labels with
            | nil => simp
            | cons label labels =>
                have here : (ofJson? value : Option String).map (name, ·) = some label ↔
                    (name, value) = (label.1, .string label.2) := by
                  simp [Prod.ext_iff, ofJson?_string, and_comm]
                rw [List.forall₂_cons, here, ih, textMembers_cons, List.cons.injEq]
      rw [texts?, texts_eq, mapM_eq_some, members, Json.object.injEq]
  | _ => simp [texts?, texts_eq]

theorem Json.field?_texts : (texts labels).field? name = (labels.get? name).map .string := by
  induction labels with
  | nil => rfl
  | cons label rest ih =>
      by_cases here : label.1 = name
      · simp_all [texts, Json.field?, lookup_cons, Labels.get?]
      · simp_all [texts, Json.field?, lookup_cons, Labels.get?]

theorem Json.insert_texts : insert name (.string text) (textMembers labels) =
    textMembers (labels.set name text) := by
  induction labels with
  | nil => rfl
  | cons label rest ih =>
      obtain ⟨other, _⟩ := label
      rw [textMembers_cons, insert, Labels.set]
      split
      · rfl
      · split
        · rfl
        · rw [textMembers_cons, ih]

theorem Kubernetes.Shape.normalize?_textMap (read : Shape.textMap.normalize? value = some normal) :
    normal = value ∧ ∃ labels, value = texts labels := by
  cases value with
  | object members =>
      obtain ⟨out, each, rfl⟩ := Option.map_eq_some_iff.mp read
      have same : out = members ∧ ∃ labels : Labels, members = textMembers labels := by
        have items := mapM_eq_some.mp each
        clear each read
        induction items with
        | nil => exact ⟨rfl, [], rfl⟩
        | @cons member _ _ _ first _ ih =>
            obtain ⟨_, there, rfl⟩ := Option.map_eq_some_iff.mp first
            obtain ⟨text, isText, rfl⟩ := Option.map_eq_some_iff.mp there
            obtain ⟨rfl, labels, same⟩ := ih
            refine ⟨rfl, (member.1, text) :: labels, ?_⟩
            rw [textMembers_cons, ← same]
            exact congrArg (List.cons · _) (Prod.ext rfl (ofJson?_string.mp isText))
      obtain ⟨rfl, labels, rfl⟩ := same
      exact ⟨rfl, labels, rfl⟩
  | _ => cases read

theorem Kubernetes.Shape.normalize?_texts (labels : Labels) :
    Shape.textMap.normalize? (texts labels) = some (texts labels) := by
  have each : (textMembers labels).mapM (fun member => (Shape.string.normalize? member.2).map (member.1, ·)) =
      some (textMembers labels) := by
    rw [mapM_eq_some]
    induction labels with
    | nil => exact .nil
    | cons label rest ih => exact .cons rfl ih
  exact congrArg (Option.map Json.object) each

end

/-! ### What is read of metadata -/

namespace Kubernetes.Meta

variable {m : Meta} {value value' : Json} {given normal : Members} {name : String} {labels : Labels}

def isPassedOn (name : String) : Bool :=
  passedOn.any (·.1 == name)

def passed (members : Members) : Members :=
  members.filter fun member => isPassedOn member.1

/-- The metadata have these fields, the times being those that were given. -/
structure HasFields (m : Meta) (given f : Fields) : Prop where
  name : f.optional? "name" = some m.name
  generateName : f.optional? "generateName" = some m.generateName
  ns : f.optional? "namespace" = some m.ns?
  uid : f.optional? "uid" = some m.uid
  generation : f.optional? "generation" = some m.generation
  labels : labels? f "labels" = some m.labels
  annotations : labels? f "annotations" = some m.annotations
  owners : f.optional? "ownerReferences" = some m.owners
  finalizers : f.optional? "finalizers" = some m.finalizers
  created : instant? given "creationTimestamp" = some m.created
  deleted : instant? given "deletionTimestamp" = some m.deleted

theorem ofJson?_parts (read : Meta.ofJson? value = some m) :
    ∃ normal, metaShape.normalize? value = some (.object normal) ∧
      m.HasFields (fun name => value.field? name) (fun name => lookup name normal) ∧ m.others = passed normal := by
  unfold Meta.ofJson? at read
  obtain ⟨_, fields, read⟩ := Option.bind_eq_some_iff.mp read
  obtain ⟨_, shaped, read⟩ := Option.bind_eq_some_iff.mp read
  obtain ⟨_, fields', read⟩ := Option.bind_eq_some_iff.mp read
  obtain ⟨name, hname, read⟩ := Option.bind_eq_some_iff.mp read
  obtain ⟨generateName, hgenerateName, read⟩ := Option.bind_eq_some_iff.mp read
  obtain ⟨ns, hns, read⟩ := Option.bind_eq_some_iff.mp read
  obtain ⟨uid, huid, read⟩ := Option.bind_eq_some_iff.mp read
  obtain ⟨generation, hgeneration, read⟩ := Option.bind_eq_some_iff.mp read
  obtain ⟨labels, hlabels, read⟩ := Option.bind_eq_some_iff.mp read
  obtain ⟨annotations, hannotations, read⟩ := Option.bind_eq_some_iff.mp read
  obtain ⟨owners, howners, read⟩ := Option.bind_eq_some_iff.mp read
  obtain ⟨finalizers, hfinalizers, read⟩ := Option.bind_eq_some_iff.mp read
  obtain ⟨created, hcreated, read⟩ := Option.bind_eq_some_iff.mp read
  obtain ⟨deleted, hdeleted, read⟩ := Option.bind_eq_some_iff.mp read
  cases read
  obtain ⟨given, out, rfl, rfl, -⟩ := Shape.normalize?_object shaped
  cases fields
  cases fields'
  exact ⟨out, shaped, ⟨hname, hgenerateName, hns, huid, hgeneration, hlabels, hannotations, howners, hfinalizers,
    hcreated, hdeleted⟩, rfl⟩

theorem ofJson?_of_fields (shaped : metaShape.normalize? (.object given) = some (.object normal))
    (fields : m.HasFields (fun name => lookup name given) (fun name => lookup name normal))
    (others : m.others = passed normal) : Meta.ofJson? (.object given) = some m := by
  unfold Meta.ofJson?
  cases m
  cases others
  refine Option.bind_eq_some_iff.mpr ⟨_, rfl, ?_⟩
  refine Option.bind_eq_some_iff.mpr ⟨_, shaped, ?_⟩
  refine Option.bind_eq_some_iff.mpr ⟨_, rfl, ?_⟩
  refine Option.bind_eq_some_iff.mpr ⟨_, fields.name, ?_⟩
  refine Option.bind_eq_some_iff.mpr ⟨_, fields.generateName, ?_⟩
  refine Option.bind_eq_some_iff.mpr ⟨_, fields.ns, ?_⟩
  refine Option.bind_eq_some_iff.mpr ⟨_, fields.uid, ?_⟩
  refine Option.bind_eq_some_iff.mpr ⟨_, fields.generation, ?_⟩
  refine Option.bind_eq_some_iff.mpr ⟨_, fields.labels, ?_⟩
  refine Option.bind_eq_some_iff.mpr ⟨_, fields.annotations, ?_⟩
  refine Option.bind_eq_some_iff.mpr ⟨_, fields.owners, ?_⟩
  refine Option.bind_eq_some_iff.mpr ⟨_, fields.finalizers, ?_⟩
  refine Option.bind_eq_some_iff.mpr ⟨_, fields.created, ?_⟩
  exact Option.bind_eq_some_iff.mpr ⟨_, fields.deleted, rfl⟩

theorem HasFields.annotated {given given' f f' : Fields} (fields : m.HasFields given f)
    (times : ∀ name, name ≠ "annotations" → given' name = given name)
    (same : ∀ name, name ≠ "annotations" → f' name = f name)
    (annotations : labels? f' "annotations" = some (some labels)) :
    ({ m with annotations := some labels } : Meta).HasFields given' f' := by
  have optional : ∀ {α : Type} [FromJson α] {name : String} {a : Option α}, name ≠ "annotations" →
      f.optional? name = some a → f'.optional? name = some a := by
    intro α _ name a differs read
    rwa [Fields.optional?, Fields.withDefault?, same name differs]
  have instant : ∀ {name : String} {a : Option Instant}, name ≠ "annotations" →
      instant? given name = some a → instant? given' name = some a := by
    intro name a differs read
    rwa [instant?, times name differs]
  have labels : labels? f' "labels" = some m.labels := by
    rw [labels?, same "labels" (by decide)]
    exact fields.labels
  exact ⟨optional (by decide) fields.name, optional (by decide) fields.generateName, optional (by decide) fields.ns,
    optional (by decide) fields.uid, optional (by decide) fields.generation, labels, annotations,
    optional (by decide) fields.owners, optional (by decide) fields.finalizers, instant (by decide) fields.created,
    instant (by decide) fields.deleted⟩

theorem optional?_text {f : Fields} {given : Option Json} {text : Option String}
    (member : Shape.string.ReadsMember false given (f name)) (read : f.optional? name = some text) :
    text = given.bind FromJson.ofJson? := by
  unfold Fields.optional? Fields.withDefault? at read
  generalize f name = shown at member read
  cases member with
  | absent missing =>
      cases read
      rcases missing with rfl | ⟨rfl, -⟩ <;> rfl
  | @present value _ _ reads =>
      obtain ⟨text, isText, rfl⟩ := Option.map_eq_some_iff.mp reads
      obtain rfl := ofJson?_string.mp isText
      cases read
      rfl

theorem labels?_texts {f : Fields} {given : Option Json} {labels : Option Labels}
    (member : Shape.textMap.ReadsMember false given (f name)) (read : labels? f name = some labels) :
    (labels = none ∧ (given = none ∨ given = some .null)) ∨ ∃ l, labels = some l ∧ given = some (texts l) := by
  unfold labels? at read
  generalize f name = shown at member read
  cases member with
  | absent missing =>
      cases read
      exact .inl ⟨rfl, missing.imp_right And.left⟩
  | present _ reads =>
      obtain ⟨rfl, l, rfl⟩ := Shape.normalize?_textMap reads
      dsimp only at read
      rw [texts?_eq_some.mpr rfl] at read
      cases read
      exact .inr ⟨l, rfl, rfl⟩

theorem name_of_read (read : Meta.ofJson? value = some m) : m.name = text? ["name"] value := by
  obtain ⟨normal, shaped, fields, -⟩ := ofJson?_parts read
  have member : Shape.string.ReadsMember false (value.field? "name") (lookup "name" normal) :=
    Shape.readsMember_of_object shaped (by decide) rfl
  have text : m.name = (value.field? "name").bind FromJson.ofJson? := optional?_text member fields.name
  rw [text, text?, member?_singleton]

theorem label?_of_read (read : Meta.ofJson? value = some m) : m.label? name = text? ["labels", name] value := by
  obtain ⟨normal, shaped, fields, -⟩ := ofJson?_parts read
  have member : Shape.textMap.ReadsMember false (value.field? "labels") (lookup "labels" normal) :=
    Shape.readsMember_of_object shaped (by decide) rfl
  unfold label? text?
  rw [member?_cons]
  rcases labels?_texts member fields.labels with ⟨none, missing⟩ | ⟨l, some, given⟩
  · rw [none]
    rcases missing with missing | missing <;> rw [missing] <;> rfl
  · rw [some, given, Option.bind_some, Option.bind_some, member?_cons, field?_texts]
    cases l.get? name <;> rfl

/-- The name and the labels of a resource are the texts at their places. -/
theorem ofResource?_texts (read : Meta.ofResource? value = some m) :
    m.name = text? ["metadata", "name"] value ∧ ∀ name, m.label? name = text? ["metadata", "labels", name] value := by
  unfold Meta.ofResource? at read
  have empty : Meta.ofJson? (.object []) = some m → m.name = none ∧ ∀ name, m.label? name = none := by
    intro read
    rw [name_of_read read]
    exact ⟨rfl, fun name => label?_of_read read⟩
  unfold text?
  split at read
  · next missing => simp [missing, empty read]
  · next null =>
    obtain ⟨unnamed, unlabelled⟩ := empty read
    have none : ∀ name, Json.null.field? name = none := fun _ => rfl
    simp [null, none, unnamed, unlabelled]
  · next metadata _ there =>
    simp only [member?_cons, there, Option.bind_some]
    exact ⟨name_of_read read, fun name => label?_of_read read⟩

/-! ### Other annotations -/

def ownMembers : List (String × Shape) :=
  Shape.each .string ["generateName", "name", "namespace", "uid"] ++
    Shape.each Shape.textMap ["annotations", "labels"] ++ Shape.each .time ["creationTimestamp", "deletionTimestamp"] ++
    [("finalizers", Shape.textList), ("generation", .int64), ("ownerReferences", .list ownerReferenceShape)]

theorem passed_of_read {normal' : Members} (read : metaShape.normalize? value = some (.object normal))
    (read' : metaShape.normalize? value' = some (.object normal'))
    (same : ∀ name, name ≠ "annotations" → value'.field? name = value.field? name) :
    passed normal' = passed normal := by
  have shape : metaShape = .object (Shape.optional ownMembers (Shape.optional passedOn .nil)) := rfl
  have dropped : ∀ member ∈ ownMembers, isPassedOn member.1 = false := by decide
  rw [shape] at read read'
  obtain ⟨given, out, rfl, same₁, members⟩ := Shape.normalize?_object read
  obtain ⟨given', out', rfl, same₂, members'⟩ := Shape.normalize?_object read'
  cases same₁
  cases same₂
  obtain ⟨others, shown, first⟩ := MemberShapes.filter_normalize? dropped members
  obtain ⟨others', shown', second⟩ := MemberShapes.filter_normalize? dropped members'
  have agree : ∀ name ∈ (Shape.optional passedOn .nil).names, lookup name given' = lookup name given := by
    intro name member
    refine same name ?_
    rintro rfl
    revert member
    decide
  rw [MemberShapes.normalize?_congr agree, shown] at shown'
  cases shown'
  exact second.trans first.symm

theorem annotations_of_read (read : Meta.ofJson? value = some m) :
    (m.annotations = none ∧ (value.field? "annotations" = none ∨ value.field? "annotations" = some .null)) ∨
      ∃ l, m.annotations = some l ∧ value.field? "annotations" = some (texts l) := by
  obtain ⟨normal, shaped, fields, -⟩ := ofJson?_parts read
  have member : Shape.textMap.ReadsMember false (value.field? "annotations") (lookup "annotations" normal) :=
    Shape.readsMember_of_object shaped (by decide) rfl
  exact labels?_texts member fields.annotations

/-- Metadata into which annotations are merged have what comes of these, and nothing else of them changed. -/
theorem annotations_merged {added : Labels} (read : Meta.ofJson? value = some m)
    (merged : ((value.field? "annotations").getD .null).merge (texts added) = texts labels) :
    Meta.ofJson? (value.merge (.object [("annotations", texts added)])) =
      some { m with annotations := some labels } := by
  have solid : ∀ labels, texts labels ≠ .null := fun labels => by simp [texts_eq]
  obtain ⟨normal, shaped, fields, others⟩ := ofJson?_parts read
  have found : (Shape.optional ownMembers (Shape.optional passedOn .nil)).find? "annotations" =
      some (false, Shape.textMap) := rfl
  -- What is merged is texts again, so it has the shape of annotations; the other members are given as before.
  obtain ⟨normal', shaped'⟩ := Shape.normalize?_merge shaped (by decide) found (solid added) (merged ▸ solid labels)
    ⟨_, merged ▸ Shape.normalize?_texts labels⟩
  have same : ∀ name, name ≠ "annotations" →
      (value.merge (.object [("annotations", texts added)])).field? name = value.field? name :=
    fun name differs => field?_merge_other differs
  have there : (value.merge (.object [("annotations", texts added)])).field? "annotations" = some (texts labels) :=
    merged ▸ field?_merge_self value _ (solid added)
  obtain ⟨given, out, rfl, named, members⟩ := Shape.normalize?_object shaped
  cases named
  obtain ⟨given', out', object, rfl, members'⟩ := Shape.normalize?_object shaped'
  rw [object] at same there shaped' ⊢
  have shown : lookup "annotations" out' = some (texts labels) := by
    have member := MemberShapes.lookup_normalize? (by decide) found members'
    rw [show lookup "annotations" given' = some (texts labels) from there] at member
    exact member.unique (.present (solid labels) (Shape.normalize?_texts labels))
  have kept : ∀ name, name ≠ "annotations" → lookup name out' = lookup name normal := fun name differs =>
    MemberShapes.lookup_normalize?_congr (same name differs) members members'
  have annotated : labels? (fun name => lookup name out') "annotations" = some (some labels) := by
    rw [labels?, shown]
    exact congrArg (Option.map some) (texts?_eq_some.mpr rfl)
  have passedOn : m.others = passed out' := others.trans (passed_of_read shaped shaped' same).symm
  exact ofJson?_of_fields shaped' (fields.annotated same kept annotated) passedOn

end Kubernetes.Meta

end BrokerFleet
