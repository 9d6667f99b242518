import BrokerFleet.Proofs.Fleet.Settling
import BrokerFleet.Proofs.Generations.Selection

/-!
The StatefulSets of a cluster as a listing shows them. What a pass collects after its generation step are the sets that
are listed then, one generation for each; and when the evacuation takes replicas from a live one of them, none of the
others changes.
-/

namespace BrokerFleet

open Kubernetes Attempt

def Kubernetes.StatefulSet.IsLive (set : StatefulSet) : Prop :=
  set.hash.isSome = true ∧ 0 < set.replicas.getD 1

theorem Generation.IsOf.live_iff {g : Generation} {set : StatefulSet} (isOf : g.IsOf set) :
    g.isLive = true ↔ set.IsLive := by
  unfold Generation.isLive StatefulSet.IsLive
  rw [isOf.hash, isOf.replicas, decide_eq_true_iff]
  exact ⟨fun live => ⟨rfl, live⟩, fun live => live.2⟩

theorem Cluster.mem_putSet_iff {written set : StatefulSet} {sets : List StatefulSet}
    (distinct : sets.Pairwise fun a b => a.name ≠ b.name) :
    set ∈ putSet written sets ↔ set = written ∨ (set ∈ sets ∧ set.name ≠ written.name) := by
  induction sets with
  | nil => simp [putSet]
  | cons first rest ih =>
      obtain ⟨apart, distinct⟩ := List.pairwise_cons.mp distinct
      unfold putSet
      split
      · next same =>
        rw [beq_iff_eq] at same
        rw [List.mem_cons, List.mem_cons]
        refine or_congr_right ⟨fun later => ⟨.inr later, fun named => apart set later (same.trans named.symm)⟩, ?_⟩
        rintro ⟨rfl | later, differs⟩
        · exact absurd same differs
        · exact later
      · next differ =>
        rw [beq_iff_eq] at differ
        rw [List.mem_cons, ih distinct, List.mem_cons]
        constructor
        · rintro (rfl | rfl | ⟨later, differs⟩)
          · exact .inr ⟨.inl rfl, differ⟩
          · exact .inl rfl
          · exact .inr ⟨.inr later, differs⟩
        · rintro (rfl | ⟨rfl | later, differs⟩)
          · exact .inr (.inl rfl)
          · exact .inl rfl
          · exact .inr (.inr ⟨later, differs⟩)

theorem SetStore.Along.of_unwritten {s after : SetStore} {log : List Exchange} (along : s.Along log after)
    (unwritten : writes log = []) : after = s := by
  induction along with
  | nil s => rfl
  | @cons s between after x log first rest ih =>
      have still := List.filterMap_eq_nil_iff.mp unwritten
      have later := ih (List.filterMap_eq_nil_iff.mpr fun y member => still y (List.mem_cons_of_mem _ member))
      have here := still x List.mem_cons_self
      unfold Step at first
      split at first
      · rw [later, first.1]
      · cases here
      · cases here
      · rw [later, first]

namespace Cluster

def listed (c : Cluster) (s : SetStore) : List StatefulSet :=
  match c.placed with
  | .ok ns => s.listing ns c.selector
  | .error _ => []

/-- The generation of the desired template is the set of that name. -/
def Wants (c : Cluster) (s : SetStore) (name : String) : Prop :=
  ∃ template hash, c.desiredTemplate = .ok template ∧
    c.resolveGeneration template (existingOf (c.listed s)) = .ok (.adopt name hash)

/-- No set of the cluster is there that was not, none has come to be live, and that of the name is as it was. -/
structure Spares (c : Cluster) (name : String) (s after : SetStore) : Prop where
  keyed : after.Keyed
  sets : ∀ set ∈ c.listed after, ∃ old ∈ c.listed s, set = { old with replicas := set.replicas } ∧
    (set.IsLive → old.IsLive) ∧ (set.name = some name → set = old)

variable {c c' : Cluster} {p next : ClusterPass} {s after : SetStore} {ns name : String} {template : PodTemplate}
  {a b set : StatefulSet} {log : List Exchange} {r : Except Failure ClusterPass}

theorem listed_of_placed (place : c.placed = .ok ns) : c.listed s = s.listing ns c.selector := by
  unfold listed
  rw [place]

theorem names_distinct (keyed : s.Keyed) : (c.listed s).Pairwise fun a b => a.name ≠ b.name := by
  unfold listed
  split
  · exact keyed.names_distinct _ _
  · exact .nil

theorem eq_of_name (keyed : s.Keyed) (ha : a ∈ c.listed s) (hb : b ∈ c.listed s) (same : a.name = b.name) :
    a = b := by
  unfold listed at ha hb
  cases place : c.placed with
  | error e =>
      rw [place] at ha
      cases ha
  | ok ns =>
      rw [place] at ha hb
      exact keyed.eq_of_name ha hb same

theorem named_of_listed (member : set ∈ c.listed s) : ∃ name, set.name = some name := by
  unfold listed at member
  split at member
  · obtain ⟨stored, -, rfl⟩ := List.mem_map.mp member
    exact ⟨stored.name, stored.named⟩
  · cases member

theorem EditedTo.listed (edited : c.EditedTo c') : c'.listed = c.listed := by
  funext s
  rw [Cluster.listed, Cluster.listed, edited.placed, edited.selector]

theorem EditedTo.wants (edited : c.EditedTo c') : c'.Wants = c.Wants := by
  unfold Wants
  rw [edited.desiredTemplate, edited.resolveGeneration, edited.listed]

/-! ### The generation step -/

theorem listed_written {stored : StoredSet} (keyed : s.Keyed) (put : SetStore.Put stored s after)
    (place : c.placed = .ok ns) (selected : stored ∈ after.selected ns c.selector) :
    set ∈ putSet stored.shown (s.listing ns c.selector) ↔ set ∈ c.listed after := by
  rw [listed_of_placed place, put.mem_listing keyed selected, mem_putSet_iff (keyed.names_distinct ns c.selector),
    stored.named]

theorem generationStep_collects (keyed : s.Keyed) (ends : (c.generationStep p).Ends log (.ok next))
    (along : s.Along log after) : ∃ sets pods name, (∀ set, set ∈ sets ↔ set ∈ c.listed after) ∧
      next = { p with generations := Generation.collect sets pods, update := some name } := by
  obtain ⟨ns, name, template, place, -, named, settles, -⟩ := generationStep_settles keyed ends along
  obtain ⟨-, put, selected, key, -⟩ := stored_of_adopt settles.adopted
  have written : ∀ {stored : StoredSet}, SetStore.Put stored s after → stored.key = (ns, name) →
      stored ∈ after.selected ns c.selector := by
    intro stored putting same
    rwa [settles.keyed.eq_of_key putting.mem (SetStore.mem_selected.mp selected).1 (same.trans key.symm)]
  rcases generationStep_ends ends with ⟨-, e, same⟩ | ⟨ns', name', sets, rest, place', resolves, rfl, stamps⟩
  · cases same
  cases place.symm.trans place'
  obtain ⟨_, ⟨rfl, lists⟩, later⟩ := SetStore.along_cons.mp along
  cases lists
  cases stamps with
  | kept quiet known =>
      obtain rfl := later.of_quiet quiet
      obtain ⟨pods, rfl⟩ := known next rfl
      exact ⟨_, pods, name', fun set => by rw [listed_of_placed place], rfl⟩
  | scaled reply quiet known =>
      obtain ⟨_, scales, rest⟩ := SetStore.along_cons.mp later
      obtain rfl := rest.of_quiet quiet
      obtain ⟨set, pods, rfl, rfl⟩ := known next rfl
      cases named
      obtain ⟨stored, makes, putting, rfl⟩ := scales
      exact ⟨_, pods, name, fun set => listed_written keyed putting place (written putting makes.key_eq), rfl⟩
  | created manifest named' reply quiet known =>
      obtain ⟨_, creates, rest⟩ := SetStore.along_cons.mp later
      obtain rfl := rest.of_quiet quiet
      obtain ⟨set, pods, rfl, rfl⟩ := known next rfl
      cases named
      obtain ⟨stored, makes, putting, rfl⟩ := creates
      have same : stored.key = (ns, name) := makes.key_eq.trans (congrArg (Prod.mk ns) named')
      exact ⟨_, pods, name, fun set => listed_written keyed putting place (written putting same), rfl⟩

theorem Settles.wants (settles : c.Settles template ns name s after) (place : c.placed = .ok ns)
    (desired : c.desiredTemplate = .ok template) : c.Wants after name := by
  have adopted := settles.adopted
  rw [← listed_of_placed place] at adopted
  exact ⟨template, _, desired, adopted⟩

theorem Settles.listed_before (settles : c.Settles template ns name s after) (place : c.placed = .ok ns)
    (member : set ∈ c.listed after) (other : set.name ≠ some name) : set ∈ c.listed s := by
  rw [listed_of_placed place] at member ⊢
  obtain ⟨stored, selected, rfl⟩ := List.mem_map.mp member
  obtain ⟨there, placed, carries⟩ := SetStore.mem_selected.mp selected
  have apart : stored ∈ after.without (ns, name) := by
    refine List.mem_filter.mpr ⟨there, bne_iff_ne.mpr fun same => other ?_⟩
    exact StoredSet.shown_name.mpr (congrArg Prod.snd same)
  rw [settles.others] at apart
  exact List.mem_map_of_mem (SetStore.mem_selected.mpr ⟨(List.mem_filter.mp apart).1, placed, carries⟩)

theorem Settles.sized (settles : c.Settles template ns name s after) (place : c.placed = .ok ns)
    (member : set ∈ c.listed after) (named : set.name = some name) : set.replicas = some c.spec.replicas := by
  rw [listed_of_placed place] at member
  obtain ⟨stored, selected, rfl⟩ := List.mem_map.mp member
  obtain ⟨there, placed, -⟩ := SetStore.mem_selected.mp selected
  obtain ⟨other, stands, key, sized, -⟩ := settles.stands
  have same : stored.key = (ns, name) := Prod.ext placed (StoredSet.shown_name.mp named)
  rwa [settles.keyed.eq_of_key there stands (same.trans key.symm)]

theorem generationStep_rests (keyed : s.Keyed) (wants : c.Wants s name)
    (sized : ∀ set ∈ c.listed s, set.name = some name → set.replicas = some c.spec.replicas)
    (ends : (c.generationStep p).Ends log r) (along : s.Along log after) :
    after = s ∧ ∀ next, r = .ok next → next.update = some name := by
  obtain ⟨template, hash, desired, adopted⟩ := wants
  cases place : c.placed with
  | error e =>
      unfold generationStep at ends
      rw [place] at ends
      rcases ends_ofExcept_bind.mp ends with ⟨_, -, rfl, rfl⟩ | ⟨ns, same, -⟩
      · exact ⟨along.of_quiet quiet_nil, fun _ ok => nomatch ok⟩
      · cases same
  | ok ns =>
      rw [listed_of_placed place] at adopted sized
      obtain ⟨knows, -, unwritten | ⟨-, other⟩⟩ := generationStep_keeps place desired adopted ends along
      · exact ⟨along.of_unwritten unwritten, knows⟩
      · obtain ⟨-, stored, selected, key, -⟩ := stored_of_adopt adopted
        have named : stored.name = name := congrArg Prod.snd key
        rw [SetStore.find?_listing keyed selected named] at other
        exact absurd (sized _ (List.mem_map_of_mem selected) (StoredSet.shown_name.mpr named)) other

/-! ### The evacuation -/

theorem Spares.refl (keyed : s.Keyed) : c.Spares name s s :=
  ⟨keyed, fun set member => ⟨set, member, rfl, fun live => live, fun _ => rfl⟩⟩

theorem spares_of_scaled {replicas : Int32} {reply : Except ApiError StatefulSet} (keyed : s.Keyed)
    (place : c.placed = .ok ns) (member : set ∈ c.listed s) (live : set.IsLive) {other : String}
    (named : set.name = some other) (differs : other ≠ name)
    (written : s.Written ns (.scaleGeneration other replicas) reply after) :
    c.Spares name s after ∧ existingOf (c.listed after) = existingOf (c.listed s) := by
  have done : after = s ∨
      ∃ stored, s.Makes ns (.scaleGeneration other replicas) stored ∧ SetStore.Put stored s after := by
    cases reply with
    | ok answer =>
        obtain ⟨stored, makes, put, -⟩ := written
        exact .inr ⟨stored, makes, put⟩
    | error e => exact written
  rcases done with rfl | ⟨changed, makes, put⟩
  · exact ⟨.refl keyed, rfl⟩
  obtain ⟨old, there, key, resized⟩ := makes.of_scale
  rw [listed_of_placed place] at member
  obtain ⟨stored, selected, rfl⟩ := List.mem_map.mp member
  obtain ⟨there', placed, fits⟩ := SetStore.mem_selected.mp selected
  have stands : stored.key = (ns, other) := Prod.ext placed (StoredSet.shown_name.mp named)
  cases keyed.eq_of_key there there' (key.trans stands.symm)
  have selected' : changed ∈ after.selected ns c.selector := by
    refine SetStore.mem_selected.mpr ⟨put.mem, ?_, (resized.isSelected _).trans fits⟩
    exact (congrArg Prod.fst resized.key).trans placed
  refine ⟨⟨put.keyed keyed, fun shown member => ?_⟩, ?_⟩
  · rw [listed_of_placed place, put.mem_listing keyed selected'] at member
    rw [listed_of_placed place]
    rcases member with rfl | ⟨member, -⟩
    · rw [resized.shown]
      refine ⟨old.shown, List.mem_map_of_mem selected, rfl, fun _ => live, fun same => ?_⟩
      exact absurd (Option.some.inj (named.symm.trans same)) differs
    · exact ⟨shown, member, rfl, fun live => live, fun _ => rfl⟩
  · rw [listed_of_placed place, listed_of_placed place, SetStore.existingOf_listing, SetStore.existingOf_listing]
    exact put.existing_selected keyed there resized ns c.selector

end Cluster

end BrokerFleet
