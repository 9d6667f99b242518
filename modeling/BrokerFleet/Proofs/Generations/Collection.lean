import BrokerFleet.Proofs.Generations.Selection
import Mathlib.Data.List.Nodup
import Mathlib.Data.List.Perm.Basic

/-!
Collecting generations loses nothing. The sets that have a name and a hash make one generation each, with exactly the
pods that they own; and where generations differ in size or age and their replicas in ordinal, the order in which sets
and pods are listed makes no difference. Pods that are changed, but for their owners and ordinals, make the same
generations with that change.
-/

namespace BrokerFleet

open Kubernetes

namespace Replica

variable {a b c : Replica}

/-- The replica has no ordinal, or none that is greater than that of the other one. -/
def NotAfter (a b : Replica) : Prop :=
  a.ordinal = none ∨ ∃ m n, a.ordinal = some m ∧ b.ordinal = some n ∧ m ≤ n

theorem le_iff : le a b = true ↔ a.NotAfter b := by
  unfold le NotAfter
  cases a.ordinal <;> cases b.ordinal <;> simp

theorem le_total (a b : Replica) : (le a b || le b a) = true := by
  unfold le
  cases a.ordinal <;> cases b.ordinal <;> simp [Int32.le_total]

theorem le_trans (a b c : Replica) (first : le a b = true) (later : le b c = true) : le a c = true := by
  unfold le at first later ⊢
  cases ha : a.ordinal <;> cases hb : b.ordinal <;> cases hc : c.ordinal <;> simp_all
  exact Int32.le_trans first later

theorem ordinal_of_le (first : le a b = true) (second : le b a = true) : a.ordinal = b.ordinal := by
  unfold le at first second
  cases ha : a.ordinal <;> cases hb : b.ordinal <;> simp_all
  exact Int32.le_antisymm first second

end Replica

theorem mergeSort_of_perm {α κ : Type} {le : α → α → Bool} {key : α → κ} {l l' : List α}
    (trans : ∀ a b c, le a b = true → le b c = true → le a c = true) (total : ∀ a b, (le a b || le b a) = true)
    (tied : ∀ {a b}, le a b = true → le b a = true → key a = key b) (distinct : (l.map key).Nodup)
    (perm : l.Perm l') : l'.mergeSort le = l.mergeSort le := by
  refine List.Perm.eq_of_pairwise ?_ (List.pairwise_mergeSort trans total l') (List.pairwise_mergeSort trans total l) ?_
  · intro a b ha hb first second
    rw [List.mem_mergeSort] at ha hb
    exact List.inj_on_of_nodup_map distinct (perm.mem_iff.mpr ha) hb (tied first second)
  · exact ((List.mergeSort_perm l' le).trans perm.symm).trans (List.mergeSort_perm l le).symm

namespace Generation

variable {sets sets' : List StatefulSet} {pods pods' : List Pod} {g h : Generation} {set : StatefulSet}

/-- The generation is larger than the other one, or as large and not older. One whose age is unknown is the oldest. -/
def NotAfter (g h : Generation) : Prop :=
  h.replicas < g.replicas ∨ g.replicas = h.replicas ∧
    (h.created = none ∨ ∃ s t, g.created = some s ∧ h.created = some t ∧
      (t.seconds < s.seconds ∨ t.seconds = s.seconds ∧ t.nanos ≤ s.nanos))

theorem before_iff : before g h = true ↔ g.NotAfter h := by
  unfold before NotAfter
  split
  · next same => cases hg : g.created <;> cases hh : h.created <;> simp [instantLe, Instant.compare_isLE, same]
  · next differ => simp [differ]

theorem key_of_before (first : before g h = true) (second : before h g = true) :
    (g.replicas, g.created) = (h.replicas, h.created) := by
  have same : g.replicas = h.replicas := by
    by_contra differ
    unfold before at first second
    rw [if_neg differ, decide_eq_true_eq] at first
    rw [if_neg fun same => differ same.symm, decide_eq_true_eq] at second
    exact Int32.lt_irrefl (Int32.lt_trans first second)
  rw [before_same_size same] at first
  rw [before_same_size same.symm] at second
  rw [same, instantLe_antisymm second first]

/-! ### One by one -/

/-- The generation is the one that the set is, with the pods that it owns, each as often as it is listed, in the order of
their ordinals. -/
structure MadeOf (pods : List Pod) (g : Generation) (set : StatefulSet) : Prop where
  isOf : g.IsOf set
  pods : g.pods.Perm ((pods.filter (owns g.name)).map Replica.ofPod)
  ordered : g.pods.Pairwise Replica.NotAfter

theorem madeOf_of_ofSet? (made : ofSet? pods set = some g) : MadeOf pods g set := by
  have isOf := isOf_of_ofSet? made
  unfold ofSet? at made
  obtain ⟨name, -, made⟩ := Option.bind_eq_some_iff.mp made
  obtain ⟨hash, -, made⟩ := Option.bind_eq_some_iff.mp made
  cases made
  have sorted := List.pairwise_mergeSort Replica.le_trans Replica.le_total
    ((pods.filter (owns name)).map Replica.ofPod)
  exact ⟨isOf, List.mergeSort_perm .., sorted.imp Replica.le_iff.mp⟩

theorem pods_of_collect (collected : g ∈ collect sets pods) :
    g.pods.Perm ((pods.filter (owns g.name)).map Replica.ofPod) := by
  rw [collect, List.mem_mergeSort, List.mem_filterMap] at collected
  obtain ⟨set, -, made⟩ := collected
  exact (madeOf_of_ofSet? made).pods

theorem podNames_of_collect (collected : g ∈ collect sets pods) :
    (g.pods.map (·.name)).Perm ((pods.filter (owns g.name)).map (·.name)) := by
  have named := (pods_of_collect collected).map (·.name)
  rwa [List.map_map] at named

theorem podNames_distinct (distinct : (pods.map (·.name)).Nodup) (collected : g ∈ collect sets pods) :
    (g.pods.map (·.name)).Nodup :=
  (podNames_of_collect collected).nodup_iff.mpr (distinct.sublist (List.filter_sublist.map _))

/-- A set that has a name and a hash makes a generation. -/
def IsNamed (set : StatefulSet) : Bool :=
  set.name.isSome && set.hash.isSome

theorem ofSet?_isSome (pods : List Pod) (set : StatefulSet) : (ofSet? pods set).isSome = IsNamed set := by
  unfold ofSet? IsNamed
  cases set.name <;> cases set.hash <;> rfl

theorem made_one_by_one (sets : List StatefulSet) (pods : List Pod) :
    List.Forall₂ (MadeOf pods) (sets.filterMap (ofSet? pods)) (sets.filter IsNamed) := by
  induction sets with
  | nil => exact .nil
  | cons set rest ih =>
      have named := ofSet?_isSome pods set
      cases made : ofSet? pods set with
      | none =>
          rw [made] at named
          rw [List.filterMap_cons_none made, List.filter_cons_of_neg (by simp [← named])]
          exact ih
      | some g =>
          rw [made] at named
          rw [List.filterMap_cons_some made, List.filter_cons_of_pos named.symm]
          exact .cons (madeOf_of_ofSet? made) ih

theorem collect_one_by_one (sets : List StatefulSet) (pods : List Pod) :
    ∃ order, order.Perm (sets.filter IsNamed) ∧ List.Forall₂ (MadeOf pods) (collect sets pods) order := by
  obtain ⟨order, each, perm⟩ := List.perm_comp_forall₂ (List.mergeSort_perm _ before) (made_one_by_one sets pods)
  exact ⟨order, perm, each⟩

theorem names_of_sets {generations : List Generation} (each : List.Forall₂ (MadeOf pods) generations sets) :
    generations.map (·.name) = sets.filterMap (·.name) := by
  induction each with
  | nil => rfl
  | cons made _ ih => rw [List.map_cons, List.filterMap_cons_some made.isOf.name, ih]

theorem collect_names (distinct : (sets.filterMap (·.name)).Nodup) (pods : List Pod) :
    ((collect sets pods).map (·.name)).Nodup := by
  obtain ⟨order, perm, each⟩ := collect_one_by_one sets pods
  rw [names_of_sets each, (perm.filterMap _).nodup_iff]
  exact distinct.sublist (List.filter_sublist.filterMap _)

/-! ### In any order -/

theorem ofSet?_of_perm (perm : pods.Perm pods') (made : ofSet? pods set = some g)
    (distinct : (g.pods.map (·.ordinal)).Nodup) : ofSet? pods' set = some g := by
  unfold ofSet? at made ⊢
  obtain ⟨name, named, made⟩ := Option.bind_eq_some_iff.mp made
  obtain ⟨hash, hashed, made⟩ := Option.bind_eq_some_iff.mp made
  cases made
  have listed : (((pods.filter (owns name)).map Replica.ofPod).map (·.ordinal)).Nodup :=
    ((List.mergeSort_perm _ Replica.le).map _).nodup_iff.mp distinct
  have same := mergeSort_of_perm Replica.le_trans Replica.le_total Replica.ordinal_of_le listed
    ((perm.filter (owns name)).map Replica.ofPod)
  simp only [named, hashed, Option.bind_eq_bind, Option.bind_some, same]

theorem collect_of_perm (perm : sets.Perm sets') (permPods : pods.Perm pods')
    (distinct : ((collect sets pods).map fun g => (g.replicas, g.created)).Nodup)
    (apart : ∀ g ∈ collect sets pods, (g.pods.map (·.ordinal)).Nodup) : collect sets' pods' = collect sets pods := by
  have same : sets.filterMap (ofSet? pods') = sets.filterMap (ofSet? pods) := by
    apply List.filterMap_congr
    intro set member
    cases made : ofSet? pods set with
    | none =>
        have unnamed := ofSet?_isSome pods set
        rw [made, ← ofSet?_isSome pods'] at unnamed
        exact Option.not_isSome_iff_eq_none.mp (by simp [← unnamed])
    | some g =>
        have collected : g ∈ collect sets pods := by
          rw [collect, List.mem_mergeSort, List.mem_filterMap]
          exact ⟨set, member, made⟩
        exact ofSet?_of_perm permPods made (apart g collected)
  have listed : ((sets.filterMap (ofSet? pods)).map fun g => (g.replicas, g.created)).Nodup :=
    ((List.mergeSort_perm _ before).map _).nodup_iff.mp distinct
  have reordered : (sets.filterMap (ofSet? pods)).Perm (sets'.filterMap (ofSet? pods')) := by
    rw [← same]
    exact perm.filterMap _
  exact mergeSort_of_perm (fun _ _ _ => before_trans) before_total key_of_before listed reordered

/-! ### With other replicas -/

def mapReplicas (h : Replica → Replica) (g : Generation) : Generation :=
  { g with pods := g.pods.map h }

theorem collect_map {f : Pod → Pod} {h : Replica → Replica} (owners : ∀ pod, (f pod).owners = pod.owners)
    (shown : ∀ pod, Replica.ofPod (f pod) = h (.ofPod pod)) (ordinal : ∀ r, (h r).ordinal = r.ordinal)
    (sets : List StatefulSet) (pods : List Pod) :
    collect sets (pods.map f) = (collect sets pods).map (mapReplicas h) := by
  have sorted : ∀ l : List Replica, (l.map h).mergeSort Replica.le = (l.mergeSort Replica.le).map h := by
    intro l
    refine (List.map_mergeSort fun a _ b _ => ?_).symm
    rw [Replica.le, Replica.le, ordinal, ordinal]
  have owned : ∀ name, ((pods.map f).filter (owns name)).map Replica.ofPod =
      ((pods.filter (owns name)).map Replica.ofPod).map h := by
    intro name
    have same : owns name ∘ f = owns name := funext fun pod => by rw [Function.comp_apply, owns, owns, owners]
    rw [List.filter_map, same, List.map_map, List.map_map]
    exact List.map_congr_left fun pod _ => shown pod
  have made : ∀ set, ofSet? (pods.map f) set = (ofSet? pods set).map (mapReplicas h) := by
    intro set
    unfold ofSet?
    cases set.name with
    | none => rfl
    | some name =>
        cases set.hash with
        | none => rfl
        | some hash =>
            simp only [Option.bind_eq_bind, Option.bind_some, owned, sorted, Option.map_some]
            rfl
  have ordered : ∀ l : List Generation,
      (l.map (mapReplicas h)).mergeSort before = (l.mergeSort before).map (mapReplicas h) := by
    intro l
    symm
    apply List.map_mergeSort
    exact fun _ _ _ _ => rfl
  rw [collect, collect, ← ordered, List.map_filterMap, funext made]

/-! ### All of it -/

/-- Of sets that differ in name those that have a name and a hash make one generation each, with the pods that they own;
the generations stand in the order of size and age. Where they differ in one of these, and their replicas in ordinal,
sets and pods may be listed in any order. -/
theorem collecting_loses_nothing (distinct : (sets.filterMap (·.name)).Nodup) (pods : List Pod) :
    (∃ order, order.Perm (sets.filter IsNamed) ∧ List.Forall₂ (MadeOf pods) (collect sets pods) order) ∧
    ((collect sets pods).map (·.name)).Nodup ∧
    (collect sets pods).Pairwise NotAfter ∧
    ∀ sets' pods', sets.Perm sets' → pods.Perm pods' →
      ((collect sets pods).map fun g => (g.replicas, g.created)).Nodup →
      (∀ g ∈ collect sets pods, (g.pods.map (·.ordinal)).Nodup) → collect sets' pods' = collect sets pods := by
  refine ⟨collect_one_by_one sets pods, collect_names distinct pods, ?_, ?_⟩
  · exact (collect_ordered sets pods).imp before_iff.mp
  · intro sets' pods' perm permPods apart ordinals
    exact collect_of_perm perm permPods apart ordinals

def ownedPod (set name : String) : Pod :=
  ⟨name, [⟨"apps/v1", "StatefulSet", set, "", none, none⟩], none, []⟩

def collectedSets : List StatefulSet :=
  [⟨some "broker-b", some "b", some 2, some ⟨100, 0⟩⟩, ⟨some "broker", none, some 3, none⟩,
    ⟨some "broker-c", some "c", some 2, some ⟨200, 0⟩⟩]

def collectedPods : List Pod :=
  [ownedPod "broker-c" "broker-c-1", ownedPod "broker-b" "broker-b-0", ownedPod "other" "other-0",
    ownedPod "broker-c" "broker-c-0", ownedPod "broker-b" "broker-b-legacy"]

/-- They may be listed the other way round. -/
theorem collected_either_way : (collectedSets.filterMap (·.name)).Nodup ∧
    ((collect collectedSets collectedPods).map fun g => (g.replicas, g.created)).Nodup ∧
    (∀ g ∈ collect collectedSets collectedPods, (g.pods.map (·.ordinal)).Nodup) ∧
    collect collectedSets.reverse collectedPods.reverse = collect collectedSets collectedPods := by
  have distinct : (collectedSets.filterMap (·.name)).Nodup := by decide +kernel
  have apart : ((collect collectedSets collectedPods).map fun g => (g.replicas, g.created)).Nodup := by
    apply ((List.mergeSort_perm _ before).map _).nodup_iff.mpr
    decide +kernel
  have ordinals : ∀ g ∈ collect collectedSets collectedPods, (g.pods.map (·.ordinal)).Nodup := by
    have each : ∀ set ∈ collectedSets, ∀ name ∈ set.name,
        (((collectedPods.filter (owns name)).map Replica.ofPod).map (·.ordinal)).Nodup := by decide +kernel
    intro g collected
    obtain ⟨set, member, isOf⟩ := mem_collect collected
    rw [((pods_of_collect collected).map _).nodup_iff]
    exact each set member g.name isOf.name
  have collecting := collecting_loses_nothing distinct collectedPods
  exact ⟨distinct, apart, ordinals, collecting.2.2.2 _ _ (List.reverse_perm _).symm (List.reverse_perm _).symm
    apart ordinals⟩

end Generation

end BrokerFleet
