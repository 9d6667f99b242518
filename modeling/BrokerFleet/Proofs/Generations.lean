import BrokerFleet.Pass.Steps

/-!
Where generations come from: what is found among the generations of a cluster is one of them, and every
one of them is a StatefulSet of the same name that asks for as many replicas.
-/

namespace BrokerFleet

open Kubernetes

namespace Generation

variable {generations : List Generation} {g : Generation} {name : String}

theorem oldest?_mem (h : oldest? generations = some g) : g ∈ generations := by
  induction generations generalizing g with
  | nil => cases h
  | cons first rest ih =>
      unfold oldest? at h
      cases found : oldest? rest with
      | none =>
          rw [found] at h
          cases h
          exact List.mem_cons_self
      | some later =>
          rw [found] at h
          dsimp only at h
          split at h
          · cases h
            exact List.mem_cons_self
          · cases h
            exact List.mem_cons_of_mem _ (ih found)

theorem origin?_spec (h : origin? generations name = some g) :
    g ∈ generations ∧ g.isLive = true ∧ g.name ≠ name := by
  have member := oldest?_mem h
  rw [List.mem_filter, live, List.mem_filter, bne_iff_ne] at member
  exact ⟨member.1.1, member.1.2, member.2⟩

theorem find?_spec (h : find? name generations = some g) : g ∈ generations ∧ g.name = name :=
  ⟨List.mem_of_find?_eq_some h, by simpa using List.find?_some h⟩

structure IsOf (g : Generation) (set : StatefulSet) : Prop where
  name : set.name = some g.name
  hash : set.hash = some g.hash
  replicas : set.replicas.getD 1 = g.replicas
  created : set.created = g.created

variable {sets : List StatefulSet} {set : StatefulSet} {pods : List Pod}

theorem isOf_of_ofSet? (h : ofSet? pods set = some g) : g.IsOf set := by
  unfold ofSet? at h
  obtain ⟨name, named, h⟩ := Option.bind_eq_some_iff.mp h
  obtain ⟨hash, hashed, h⟩ := Option.bind_eq_some_iff.mp h
  cases h
  exact ⟨named, hashed, rfl, rfl⟩

theorem mem_collect (h : g ∈ collect sets pods) : ∃ set ∈ sets, g.IsOf set := by
  rw [collect, List.mem_mergeSort, List.mem_filterMap] at h
  obtain ⟨set, member, made⟩ := h
  exact ⟨set, member, isOf_of_ofSet? made⟩

theorem mem_collect_of_hash (member : set ∈ sets) (named : set.name = some name) (hashed : set.hash.isSome = true)
    (pods : List Pod) : ∃ g ∈ collect sets pods, g.IsOf set := by
  obtain ⟨hash, hashed⟩ := Option.isSome_iff_exists.mp hashed
  obtain ⟨g, made⟩ : ∃ g, ofSet? pods set = some g := by
    unfold ofSet?
    rw [named, hashed]
    exact ⟨_, rfl⟩
  refine ⟨g, ?_, isOf_of_ofSet? made⟩
  rw [collect, List.mem_mergeSort, List.mem_filterMap]
  exact ⟨set, member, made⟩

theorem lastReplica?_spec {pod : String} (h : g.lastReplica? = some pod) :
    0 < g.replicas ∧ pod = g.name ++ "-" ++ toString (g.replicas - 1).toInt := by
  unfold lastReplica? at h
  split at h
  · next live =>
    cases h
    exact ⟨by simpa [isLive] using live, rfl⟩
  · cases h

theorem pred_of_live {replicas : Int32} (live : 0 < replicas) :
    0 ≤ replicas - 1 ∧ replicas - 1 < replicas := by
  have lower : 0 < replicas.toInt := Int32.lt_iff_toInt_lt.mp live
  have upper : replicas.toInt < 2147483648 := Int32.toInt_lt replicas
  have less : (replicas - 1).toInt = replicas.toInt - 1 := by
    rw [Int32.toInt_sub, show (1 : Int32).toInt = 1 from rfl]
    exact Int.bmod_eq_of_le (by omega) (by omega)
  rw [Int32.le_iff_toInt_le, Int32.lt_iff_toInt_lt, less]
  exact ⟨Int.sub_nonneg_of_le lower, by omega⟩

end Generation

theorem Cluster.mem_putSet {written set : StatefulSet} {sets : List StatefulSet}
    (h : set ∈ putSet written sets) : set = written ∨ set ∈ sets := by
  induction sets with
  | nil => exact .inl (List.mem_singleton.mp h)
  | cons first rest ih =>
      unfold putSet at h
      split at h
      · rcases List.mem_cons.mp h with rfl | later
        · exact .inl rfl
        · exact .inr (List.mem_cons_of_mem _ later)
      · rcases List.mem_cons.mp h with rfl | later
        · exact .inr List.mem_cons_self
        · rcases ih later with same | member
          · exact .inl same
          · exact .inr (List.mem_cons_of_mem _ member)

end BrokerFleet
