import BrokerFleet.Proofs.Digest.SafeNumeral
import BrokerFleet.Proofs.Kubernetes.Patches
import BrokerFleet.Proofs.Pass.Vocabulary
import Mathlib.Data.List.Nodup

/-!
StatefulSets as the API stores them, by namespace and name. A listing shows the sets that the text of its selector
selects, in the order in which they are stored; and a set that is written is what the document that was sent makes of
the one of its key, as far as the operator sees it.
-/

namespace BrokerFleet

open Kubernetes Rehearsal

/-- A StatefulSet as it is stored, with what is read of its document. The value of a label has no comma: the API takes no
others. -/
structure StoredSet where
  ns : String
  name : String
  object : Json
  shown : StatefulSet
  reads : ofJson? object = some shown
  named : shown.name = some name
  plain : ∀ label value, text? ["metadata", "labels", label] object = some value → ',' ∉ value.toList

namespace StoredSet

def key (set : StoredSet) : String × String :=
  (set.ns, set.name)

def label? (set : StoredSet) (name : String) : Option String :=
  text? ["metadata", "labels", name] set.object

def isSelected (set : StoredSet) (selector : String) : Bool :=
  Store.isSelected selector set.object

def existing (set : StoredSet) : Generation.Existing :=
  ⟨set.name, set.shown.hash⟩

/-- The operator sees of the set what it sees of the document. -/
structure SeenAs (set : StoredSet) (sent : Json) : Prop where
  shown : ofJson? sent = some set.shown
  labels : ∀ name, set.label? name = text? ["metadata", "labels", name] sent

/-- The set is the old one, but for its size. -/
structure IsResized (set old : StoredSet) (replicas : Int32) : Prop where
  key : set.key = old.key
  shown : set.shown = { old.shown with replicas := some replicas }
  labels : ∀ name, set.label? name = old.label? name

/-- The set has what a manifest asks for. -/
structure IsSent (ns : String) (manifest : GenerationManifest) (set : StoredSet) : Prop where
  key : set.key = (ns, manifest.metadata.name)
  labels : ∀ name text, manifest.metadata.labels.get? name = some text → set.label? name = some text
  replicas : set.shown.replicas = some manifest.replicas

theorem shown_name {set : StoredSet} {name : String} : set.shown.name = some name ↔ set.name = name := by
  rw [set.named, Option.some.injEq]

theorem hash_eq_label? (set : StoredSet) : set.shown.hash = set.label? hashLabel :=
  (StatefulSet.ofJson?_parts set.reads).2.1

theorem carries_iff {set : StoredSet} {labels : Labels} :
    carries labels set.object = true ↔ ∀ label ∈ labels, set.label? label.1 = some label.2 := by
  simp [carries, label?]

theorem label?_scalePatch {object : Json} {replicas : Int32} (name : String) :
    text? ["metadata", "labels", name] (object.merge (Write.scalePatch replicas)) =
      text? ["metadata", "labels", name] object :=
  text?_congr (StatefulSet.field?_scalePatch (by decide))

def resized (set : StoredSet) (replicas : Int32) : StoredSet where
  ns := set.ns
  name := set.name
  object := set.object.merge (Write.scalePatch replicas)
  shown := { set.shown with replicas := some replicas }
  reads := StatefulSet.scalePatch_reads set.reads
  named := set.named
  plain label value found := set.plain label value ((label?_scalePatch label).symm.trans found)

@[simp] theorem resized_key {set : StoredSet} {replicas : Int32} : (set.resized replicas).key = set.key := rfl

theorem plain_of_labels {object : Json} {labels : Labels}
    (there : member? ["metadata", "labels"] object = some (Json.texts labels))
    (plain : ∀ label ∈ labels, ',' ∉ label.2.toList) (name value : String)
    (found : text? ["metadata", "labels", name] object = some value) : ',' ∉ value.toList := by
  have path : member? ["metadata", "labels", name] object =
      (member? ["metadata", "labels"] object).bind (Json.field? name) := by
    have last : member? [name] = Json.field? name := funext fun _ => member?_singleton
    rw [member?_cons, member?_cons, Option.bind_assoc]
    refine congrArg (Option.bind _) (funext fun metadata => ?_)
    rw [member?_cons, last, member?_singleton]
  rw [text?, path, there, Option.bind_some, Json.field?_texts] at found
  cases label : labels.get? name with
  | none => simp [label] at found
  | some text =>
      obtain rfl : text = value := by simpa [label, ofJson?] using found
      obtain ⟨member, among, rfl⟩ := Option.map_eq_some_iff.mp label
      exact plain member (List.mem_of_find?_eq_some among)

theorem IsResized.isSelected {set old : StoredSet} {replicas : Int32} (resized : set.IsResized old replicas)
    (selector : String) : set.isSelected selector = old.isSelected selector := by
  have same : ∀ name, text? ["metadata", "labels", name] set.object = text? ["metadata", "labels", name] old.object :=
    resized.labels
  simp only [StoredSet.isSelected, Store.isSelected, same]

theorem IsResized.existing {set old : StoredSet} {replicas : Int32} (resized : set.IsResized old replicas) :
    set.existing = old.existing := by
  have named : set.name = old.name := congrArg Prod.snd resized.key
  rw [StoredSet.existing, StoredSet.existing, resized.shown, named]

end StoredSet

abbrev SetStore := List StoredSet

namespace SetStore

def Keyed (s : SetStore) : Prop :=
  (s.map (·.key)).Nodup

def selected (s : SetStore) (ns selector : String) : SetStore :=
  s.filter fun set => set.ns == ns && set.isSelected selector

def listing (s : SetStore) (ns selector : String) : List StatefulSet :=
  (s.selected ns selector).map (·.shown)

def object? (s : SetStore) (key : String × String) : Option Json :=
  (s.find? (·.key == key)).map (·.object)

def without (s : SetStore) (key : String × String) : SetStore :=
  s.filter (·.key != key)

/-- The set is what a write makes of the one of its key. A set that is made is stamped with the time. -/
inductive Makes (s : SetStore) (ns : String) (w : Write) (set : StoredSet) : Prop where
  | changed {old sent : Json} (key : set.key = (ns, w.name)) (there : s.object? (ns, w.name) = some old)
      (written : Store.written w.verb w.body (Store.editsOf w) (some old) = .ok sent) (seen : set.SeenAs sent)
  | made {sent : Json} {now : Instant} (key : set.key = (ns, w.name)) (free : s.object? (ns, w.name) = none)
      (written : Store.written w.verb w.body (Store.editsOf w) none = .ok sent)
      (seen : set.SeenAs (Store.stamped now sent))

/-- A set comes to stand in the place of the one of its key, or anywhere if there is none. -/
inductive Put (set : StoredSet) : SetStore → SetStore → Prop where
  | replaced {before rest : SetStore} {old : StoredSet} (same : old.key = set.key) :
      Put set (before ++ old :: rest) (before ++ set :: rest)
  | added {before rest : SetStore} (free : ∀ other ∈ before ++ rest, other.key ≠ set.key) :
      Put set (before ++ rest) (before ++ set :: rest)

/-- What becomes of the store when a set is written. The set comes back as it is then; a write that failed may have been
done. -/
def Written (s : SetStore) (ns : String) (w : Write) (reply : Except ApiError StatefulSet) (after : SetStore) : Prop :=
  match reply with
  | .ok answer => ∃ set, s.Makes ns w set ∧ Put set s after ∧ answer = set.shown
  | .error _ => after = s ∨ ∃ set, s.Makes ns w set ∧ Put set s after

/-- What becomes of the store in an exchange. -/
def Step (s : SetStore) : Exchange → SetStore → Prop
  | ⟨.listSets ns selector, .ok sets⟩, after => after = s ∧ sets = s.listing ns selector
  | ⟨.write ns (.scaleGeneration name replicas), reply⟩, after =>
    s.Written ns (.scaleGeneration name replicas) reply after
  | ⟨.write ns (.applyGeneration manifest), reply⟩, after => s.Written ns (.applyGeneration manifest) reply after
  | _, after => after = s

/-- What becomes of the store in exchanges, one after the other. -/
inductive Along : SetStore → List Exchange → SetStore → Prop where
  | nil (s : SetStore) : Along s [] s
  | cons {s between after : SetStore} {x : Exchange} {log : List Exchange} (first : s.Step x between)
      (rest : Along between log after) : Along s (x :: log) after

variable {s after : SetStore} {set old : StoredSet} {log : List Exchange} {ns name selector : String}

theorem along_cons {x : Exchange} :
    s.Along (x :: log) after ↔ ∃ between : SetStore, s.Step x between ∧ between.Along log after := by
  constructor
  · intro h
    cases h with
    | cons first rest => exact ⟨_, first, rest⟩
  · intro h
    rcases h with ⟨between, first, rest⟩
    exact .cons first rest

theorem along_append {rest : List Exchange} :
    s.Along (log ++ rest) after ↔ ∃ between : SetStore, s.Along log between ∧ between.Along rest after := by
  induction log generalizing s with
  | nil =>
      constructor
      · intro h
        exact ⟨s, .nil s, h⟩
      · rintro ⟨between, first, h⟩
        cases first
        exact h
  | cons x log ih =>
      constructor
      · intro h
        obtain ⟨next, first, later⟩ := along_cons.mp h
        obtain ⟨between, before, follows⟩ := ih.mp later
        exact ⟨between, .cons first before, follows⟩
      · rintro ⟨between, before, follows⟩
        obtain ⟨next, first, later⟩ := along_cons.mp before
        exact .cons first (ih.mpr ⟨between, later, follows⟩)

theorem Along.of_quiet (along : s.Along log after) (quiet : Quiet log) : after = s := by
  induction along with
  | nil s => rfl
  | @cons s between after x log first rest ih =>
      have still := quiet x List.mem_cons_self
      have later := ih fun y member => quiet y (List.mem_cons_of_mem _ member)
      unfold Step at first
      split at first
      · rw [later, first.1]
      · exact absurd trivial still
      · exact absurd trivial still
      · rw [later, first]

theorem along_of_quiet (quiet : Quiet log) (shown : ∀ ns selector sets, ⟨.listSets ns selector, .ok sets⟩ ∈ log →
    sets = s.listing ns selector) : s.Along log s := by
  induction log with
  | nil => exact .nil s
  | cons x log ih =>
      have later := ih (fun y member => quiet y (List.mem_cons_of_mem _ member))
        fun ns selector sets member => shown ns selector sets (List.mem_cons_of_mem _ member)
      refine .cons ?_ later
      have still := quiet x List.mem_cons_self
      unfold Step
      split
      · exact ⟨rfl, shown _ _ _ List.mem_cons_self⟩
      · exact absurd trivial still
      · exact absurd trivial still
      · rfl

theorem Keyed.eq_of_key (keyed : s.Keyed) {a b : StoredSet} (ha : a ∈ s) (hb : b ∈ s) (same : a.key = b.key) :
    a = b :=
  List.inj_on_of_nodup_map keyed ha hb same

theorem mem_selected : set ∈ s.selected ns selector ↔ set ∈ s ∧ set.ns = ns ∧ set.isSelected selector = true := by
  simp [selected]

theorem existingOf_listing :
    Cluster.existingOf (s.listing ns selector) = (s.selected ns selector).map (·.existing) := by
  have existing : ∀ set : StoredSet, set.shown.name.map (fun name => (⟨name, set.shown.hash⟩ : Generation.Existing)) =
      some set.existing := by
    intro set
    rw [set.named]
    rfl
  simp [Cluster.existingOf, listing, List.filterMap_map, existing]

theorem find?_listing (keyed : s.Keyed) (selected : set ∈ s.selected ns selector) (named : set.name = name) :
    (s.listing ns selector).find? (·.name == some name) = some set.shown := by
  subst named
  obtain ⟨there, placed, -⟩ := mem_selected.mp selected
  cases found : (s.listing ns selector).find? (·.name == some set.name) with
  | none =>
      have missing := List.find?_eq_none.mp found set.shown (List.mem_map_of_mem selected)
      simp [set.named] at missing
  | some first =>
      obtain ⟨other, listed, rfl⟩ := List.mem_map.mp (List.mem_of_find?_eq_some found)
      obtain ⟨there', placed', -⟩ := mem_selected.mp listed
      have named : other.name = set.name := StoredSet.shown_name.mp (by simpa using List.find?_some found)
      rw [keyed.eq_of_key there' there (Prod.ext (placed'.trans placed.symm) named)]

theorem Keyed.names_distinct (keyed : s.Keyed) (ns selector : String) :
    (s.listing ns selector).Pairwise fun a b => a.name ≠ b.name := by
  unfold listing selected
  rw [List.pairwise_map, List.pairwise_filter]
  refine (List.pairwise_map.mp keyed).imp fun {a b} differ ha hb same => differ ?_
  rw [Bool.and_eq_true, beq_iff_eq] at ha hb
  exact Prod.ext (ha.1.trans hb.1.symm) (StoredSet.shown_name.mp (same.trans b.named))

theorem Keyed.eq_of_name (keyed : s.Keyed) {a b : StatefulSet} (ha : a ∈ s.listing ns selector)
    (hb : b ∈ s.listing ns selector) (same : a.name = b.name) : a = b := by
  obtain ⟨x, listed, rfl⟩ := List.mem_map.mp ha
  obtain ⟨y, listed', rfl⟩ := List.mem_map.mp hb
  obtain ⟨there, placed, -⟩ := mem_selected.mp listed
  obtain ⟨there', placed', -⟩ := mem_selected.mp listed'
  have named : x.name = y.name := StoredSet.shown_name.mp (same.trans y.named)
  rw [keyed.eq_of_key there there' (Prod.ext (placed.trans placed'.symm) named)]

/-! ### What a write leaves -/

namespace Put

theorem mem (put : Put set s after) : set ∈ after := by
  cases put with
  | replaced _ => exact List.mem_append_right _ List.mem_cons_self
  | added _ => exact List.mem_append_right _ List.mem_cons_self

theorem without (put : Put set s after) : after.without set.key = s.without set.key := by
  cases put with
  | replaced same => simp [SetStore.without, same]
  | added _ => simp [SetStore.without]

theorem keyed (put : Put set s after) (keyed : s.Keyed) : after.Keyed := by
  cases put with
  | replaced same =>
      unfold Keyed at keyed ⊢
      rwa [List.map_append, List.map_cons, same, ← List.map_cons, ← List.map_append] at keyed
  | added free =>
      unfold Keyed
      rw [List.map_append, List.map_cons, List.nodup_middle, ← List.map_append, List.nodup_cons]
      refine ⟨fun member => ?_, keyed⟩
      obtain ⟨other, there, same⟩ := List.mem_map.mp member
      exact free other there same

theorem around (put : Put set s after) : ∃ before rest, after = before ++ set :: rest ∧ before ⊆ s ∧ rest ⊆ s := by
  cases put with
  | @replaced before rest old same =>
      refine ⟨before, rest, rfl, List.subset_append_left _ _, ?_⟩
      exact fun other member => List.mem_append_right _ (List.mem_cons_of_mem _ member)
  | @added before rest free => exact ⟨before, rest, rfl, List.subset_append_left _ _, List.subset_append_right _ _⟩

theorem existing_selected {replicas : Int32} (put : Put set s after) (keyed : s.Keyed) (member : old ∈ s)
    (resized : set.IsResized old replicas) (ns selector : String) :
    (after.selected ns selector).map (·.existing) = (s.selected ns selector).map (·.existing) := by
  cases put with
  | @replaced before rest other same =>
      cases keyed.eq_of_key member (List.mem_append_right _ List.mem_cons_self) (resized.key.symm.trans same.symm)
      have placed : set.ns = old.ns := congrArg Prod.fst resized.key
      simp only [selected, List.filter_append, List.filter_cons, placed, resized.isSelected, List.map_append]
      split
      · rw [List.map_cons, List.map_cons, resized.existing]
      · rfl
  | added free => exact absurd resized.key.symm (free old member)

theorem mem_listing (put : Put set s after) (keyed : s.Keyed) (selected : set ∈ after.selected ns selector)
    {shown : StatefulSet} : shown ∈ after.listing ns selector ↔
      shown = set.shown ∨ (shown ∈ s.listing ns selector ∧ shown.name ≠ some set.name) := by
  obtain ⟨-, placed, -⟩ := mem_selected.mp selected
  have others : ∀ other : StoredSet, other.key ≠ set.key → (other ∈ after ↔ other ∈ s) := by
    intro other differs
    have same : other ∈ after.without set.key ↔ other ∈ s.without set.key := by rw [put.without]
    simpa [SetStore.without, differs] using same
  constructor
  · intro member
    obtain ⟨other, listed, rfl⟩ := List.mem_map.mp member
    obtain ⟨there, placed', matching⟩ := mem_selected.mp listed
    by_cases same : other.key = set.key
    · exact .inl (by rw [(put.keyed keyed).eq_of_key there put.mem same])
    · refine .inr ⟨List.mem_map_of_mem (mem_selected.mpr ⟨(others other same).mp there, placed', matching⟩), ?_⟩
      exact fun named => same (Prod.ext (placed'.trans placed.symm) (StoredSet.shown_name.mp named))
  · rintro (rfl | ⟨member, differs⟩)
    · exact List.mem_map_of_mem selected
    · obtain ⟨other, listed, rfl⟩ := List.mem_map.mp member
      obtain ⟨there, placed', matching⟩ := mem_selected.mp listed
      have apart : other.key ≠ set.key := fun same => differs (StoredSet.shown_name.mpr (congrArg Prod.snd same))
      exact List.mem_map_of_mem (mem_selected.mpr ⟨(others other apart).mpr there, placed', matching⟩)

end Put

theorem find?_existing_of_put (put : Put set s after) {hash : String} (placed : set.ns = ns)
    (matching : set.isSelected selector = true) (hashed : set.shown.hash = some hash)
    (unknown : ∀ other ∈ s.selected ns selector, other.shown.hash ≠ some hash) :
    ((after.selected ns selector).map (·.existing)).find? (·.hash == some hash) = some ⟨set.name, some hash⟩ := by
  obtain ⟨before, rest, rfl, sub, -⟩ := put.around
  have earlier : (SetStore.selected before ns selector).find? (fun other => other.existing.hash == some hash) =
      none := by
    refine List.find?_eq_none.mpr fun other member same => ?_
    obtain ⟨there, fits⟩ := mem_selected.mp member
    exact unknown other (mem_selected.mpr ⟨sub there, fits⟩) (beq_iff_eq.mp same)
  have here : SetStore.selected (before ++ set :: rest) ns selector =
      SetStore.selected before ns selector ++ set :: SetStore.selected rest ns selector := by
    simp [selected, List.filter_append, placed, matching]
  have shown : (set.existing.hash == some hash) = true := beq_iff_eq.mpr hashed
  rw [here, List.find?_map, Function.comp_def, List.find?_append, earlier, Option.none_or, List.find?_cons, shown,
    Option.map_some, StoredSet.existing, hashed]

/-! ### What the documents come to -/

theorem exists_of_object? {key : String × String} {object : Json} (there : s.object? key = some object) :
    ∃ old ∈ s, old.key = key ∧ old.object = object := by
  obtain ⟨old, found, rfl⟩ := Option.map_eq_some_iff.mp there
  exact ⟨old, List.mem_of_find?_eq_some found, by simpa using List.find?_some found, rfl⟩

theorem Makes.key_eq {w : Write} (makes : s.Makes ns w set) : set.key = (ns, w.name) := by
  cases makes with
  | changed key _ _ _ => exact key
  | made key _ _ _ => exact key

theorem Makes.of_scale {replicas : Int32} (makes : s.Makes ns (.scaleGeneration name replicas) set) :
    ∃ old ∈ s, old.key = (ns, name) ∧ set.IsResized old replicas := by
  cases makes with
  | made _ _ written _ => cases written
  | changed key there written seen =>
      obtain ⟨old, member, same, rfl⟩ := exists_of_object? there
      cases written
      have shown : some set.shown = some { old.shown with replicas := some replicas } :=
        seen.shown.symm.trans (StatefulSet.scalePatch_reads old.reads)
      refine ⟨old, member, same, key.trans same.symm, Option.some.inj shown, fun label => ?_⟩
      exact (seen.labels label).trans (StoredSet.label?_scalePatch label)

theorem makes_resized (keyed : s.Keyed) (member : old ∈ s) (replicas : Int32) :
    s.Makes old.ns (.scaleGeneration old.name replicas) (old.resized replicas) := by
  have there : s.object? (old.ns, old.name) = some old.object := by
    cases found : s.find? (·.key == old.key) with
    | none => exact absurd (beq_self_eq_true old.key) (List.find?_eq_none.mp found old member)
    | some first =>
        have hit := List.find?_some found
        have same : first.key = old.key := beq_iff_eq.mp hit
        rw [keyed.eq_of_key (List.mem_of_find?_eq_some found) member same] at found
        exact Option.map_eq_some_iff.mpr ⟨old, found, rfl⟩
  exact .changed rfl there rfl ⟨StatefulSet.scalePatch_reads old.reads, fun _ => rfl⟩

theorem Makes.of_apply {manifest : GenerationManifest} (makes : s.Makes ns (.applyGeneration manifest) set)
    (distinct : (manifest.metadata.labels.map (·.1)).Nodup) : set.IsSent ns manifest := by
  have count : (ofJson? (toJson manifest.replicas) : Option Int32) = some manifest.replicas :=
    Json.Lawful.reads Json.faithful_id manifest.replicas
  cases makes with
  | changed key _ written seen =>
      cases written
      refine ⟨key, fun name text wanted => ?_, ?_⟩
      · exact (seen.labels name).trans (GenerationManifest.label_applied distinct wanted)
      · rw [(StatefulSet.ofJson?_parts seen.shown).2.2.1]
        exact (congrArg (Option.bind · ofJson?) GenerationManifest.replicas_applied).trans count
  | made key _ written seen =>
      cases written
      refine ⟨key, fun name text wanted => ?_, ?_⟩
      · rw [seen.labels name, text?, member?_stamped (by decide)]
        exact GenerationManifest.label_applied distinct wanted
      · rw [(StatefulSet.ofJson?_parts seen.shown).2.2.1, member?_cons, field?_stamped (by decide), ← member?_cons]
        exact (congrArg (Option.bind · ofJson?) GenerationManifest.replicas_applied).trans count

end SetStore

def generationDocument (cluster name hash created : String) : Json :=
  .object [("apiVersion", .string "apps/v1"), ("kind", .string "StatefulSet"),
    ("metadata", .object [("creationTimestamp", .string created),
      ("labels", Json.texts [(managedByLabel, managedBy), (instanceLabel, cluster), (hashLabel, hash)]),
      ("name", .string name)]),
    ("spec", .object [("replicas", .int 1)])]

theorem generationDocument_plain {cluster name hash created : String} (plain : ',' ∉ cluster.toList ∧ ',' ∉ hash.toList)
    (label value : String) (found : text? ["metadata", "labels", label] (generationDocument cluster name hash created) =
      some value) : ',' ∉ value.toList := by
  refine StoredSet.plain_of_labels rfl (fun label member => ?_) label value found
  simp only [List.mem_cons, List.not_mem_nil, or_false] at member
  rcases member with rfl | rfl | rfl
  · decide
  · exact plain.1
  · exact plain.2

theorem templateHash_plain (spec : Json) : ',' ∉ (Generation.templateHash spec).toList := by
  intro member
  have among : ',' ∈ Digest.SafeNumeral.alphabet := Digest.SafeNumeral.mem_alphabet_of_encode member
  revert among
  decide

end BrokerFleet
