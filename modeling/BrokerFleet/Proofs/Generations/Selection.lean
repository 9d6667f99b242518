import BrokerFleet.Proofs.Generations
import BrokerFleet.Proofs.Instants
import Mathlib.Data.List.Perm.Subperm
import Mathlib.Data.List.Sort

/-!
The order of generations and what is selected by it. Collected generations stand in the order of their size
and, within one size, of their age; so of those that are of full size and fully healthy the youngest serves,
and the origin is the oldest live one besides the update generation.
-/

namespace BrokerFleet

open Kubernetes

namespace Generation

variable {generations : List Generation} {desired : Int32} {name : String} {g h : Generation}

/-! ### Order -/

theorem before_same_size (same : g.replicas = h.replicas) : before g h = instantLe h.created g.created :=
  if_pos same

theorem before_total (a b : Generation) : (before a b || before b a) = true := by
  rw [Bool.or_eq_true]
  by_cases same : a.replicas = b.replicas
  · rw [before_same_size same, before_same_size same.symm]
    exact instantLe_total b.created a.created
  · unfold before
    rw [if_neg same, if_neg fun h => same h.symm, decide_eq_true_eq, decide_eq_true_eq]
    rcases Int32.lt_or_le b.replicas a.replicas with less | notLess
    · exact .inl less
    · exact .inr (Int32.lt_of_le_of_ne notLess same)

theorem before_trans {a b c : Generation} (first : before a b = true) (later : before b c = true) :
    before a c = true := by
  unfold before at first later ⊢
  by_cases hab : a.replicas = b.replicas
  · by_cases hbc : b.replicas = c.replicas
    · rw [if_pos hab] at first
      rw [if_pos hbc] at later
      rw [if_pos (hab.trans hbc)]
      exact instantLe_trans later first
    · rw [if_neg hbc] at later
      rw [hab, if_neg hbc]
      exact later
  · rw [if_neg hab, decide_eq_true_eq] at first
    by_cases hbc : b.replicas = c.replicas
    · rw [← hbc, if_neg hab, decide_eq_true_eq]
      exact first
    · rw [if_neg hbc, decide_eq_true_eq] at later
      have less : c.replicas < a.replicas := Int32.lt_trans later first
      rw [if_neg (Int32.ne_of_lt less).symm, decide_eq_true_eq]
      exact less

theorem collect_ordered (sets : List StatefulSet) (pods : List Pod) :
    (collect sets pods).Pairwise fun a b => before a b = true := by
  unfold collect
  apply List.pairwise_mergeSort
  · intro a b c
    exact before_trans
  · exact before_total

/-! ### Live generations -/

theorem isLive_iff : g.isLive = true ↔ 0 < g.replicas := by
  rw [isLive, decide_eq_true_eq]

theorem one_lt_live (hg : g ∈ generations) (hh : h ∈ generations) (live : g.isLive = true)
    (live' : h.isLive = true) (differ : g ≠ h) : 1 < (Generation.live generations).length := by
  have sub : [g, h].Subperm (Generation.live generations) := by
    have distinct : [g, h].Nodup := List.Pairwise.cons (fun x member => List.mem_singleton.mp member ▸ differ)
      (List.nodup_singleton h)
    refine distinct.subperm ?_
    intro x member
    rcases List.mem_pair.mp member with rfl | rfl
    · exact List.mem_filter.mpr ⟨hg, live⟩
    · exact List.mem_filter.mpr ⟨hh, live'⟩
  exact sub.length_le

/-! ### Serving -/

theorem isServing_replicas (healthy : g.isServing desired = true) : g.replicas = desired := by
  unfold isServing at healthy
  rw [Bool.and_eq_true, Bool.and_eq_true, beq_iff_eq] at healthy
  exact healthy.1.2

theorem isLive_of_isServing (healthy : g.isServing desired = true) : g.isLive = true := by
  unfold isServing at healthy
  rw [Bool.and_eq_true, Bool.and_eq_true] at healthy
  exact healthy.1.1

theorem toInt_clampedCount (n : Nat) : (clampedCount n).toInt = min (n : Int) 2147483647 := by
  unfold clampedCount
  split
  · next small =>
    rw [Int32.toInt_ofNat_of_lt (by omega)]
    omega
  · next large =>
    have most : Int32.maxValue.toInt = 2147483647 := rfl
    omega

/-- The generation has the size that is desired and is fully healthy: as many of its replicas are ready, or, where the
greatest number is desired that a size can have, more than that. -/
structure Full (desired : Int32) (g : Generation) : Prop where
  live : 0 < g.replicas
  sized : g.replicas = desired
  healthy : (g.pods.countP (·.ready) : Int) = desired.toInt ∨
    desired = Int32.maxValue ∧ 2147483647 < g.pods.countP (·.ready)

/-- Where there are no more pods than a size can count, full health is that exactly as many as desired are ready. -/
theorem full_iff (countable : g.pods.length ≤ 2147483647) :
    g.Full desired ↔ 0 < g.replicas ∧ g.replicas = desired ∧ (g.pods.countP (·.ready) : Int) = desired.toInt := by
  have counted : g.pods.countP (·.ready) ≤ g.pods.length := List.countP_le_length
  constructor
  · intro full
    refine ⟨full.live, full.sized, full.healthy.resolve_right fun more => ?_⟩
    omega
  · intro h
    exact ⟨h.1, h.2.1, .inl h.2.2⟩

theorem readyReplicas_eq_iff : g.readyReplicas = desired ↔ (g.pods.countP (·.ready) : Int) = desired.toInt ∨
    desired = Int32.maxValue ∧ 2147483647 < g.pods.countP (·.ready) := by
  have most : Int32.maxValue.toInt = 2147483647 := rfl
  have upper : desired.toInt < 2147483648 := Int32.toInt_lt desired
  rw [← Int32.toInt_inj, ← Int32.toInt_inj, readyReplicas, toInt_clampedCount, most]
  omega

theorem isServing_iff : g.isServing desired = true ↔ g.Full desired := by
  unfold isServing
  rw [Bool.and_eq_true, Bool.and_eq_true, isLive_iff, beq_iff_eq, beq_iff_eq, readyReplicas_eq_iff]
  exact ⟨fun ⟨⟨live, sized⟩, healthy⟩ => ⟨live, sized, healthy⟩, fun full => ⟨⟨full.live, full.sized⟩, full.healthy⟩⟩

theorem serving?_eq_none : serving? generations desired = none ↔ ∀ g ∈ generations, ¬ g.Full desired := by
  rw [serving?, List.find?_eq_none]
  simp only [isServing_iff]

theorem serving?_youngest (ordered : generations.Pairwise fun a b => before a b = true)
    (serves : serving? generations desired = some g) (member : h ∈ generations)
    (healthy : h.isServing desired = true) : instantLe h.created g.created = true := by
  obtain ⟨healthy', earlier, later, rfl, unhealthy⟩ := List.find?_eq_some_iff_append.mp serves
  rcases List.mem_append.mp member with first | rest
  · have sick := unhealthy h first
    rw [healthy] at sick
    cases sick
  · rcases List.mem_cons.mp rest with rfl | after
    · exact instantLe_refl _
    · have stands := (List.pairwise_append.mp ordered).2.1
      have follows : before g h = true := (List.pairwise_cons.mp stands).1 h after
      rwa [before_same_size] at follows
      rw [isServing_replicas healthy, isServing_replicas healthy']

theorem find?_unique {α : Type} {p q : α → Bool} {l : List α} {a b : α} (ha : l.find? p = some a)
    (hb : l.find? q = some b) (pb : p b = true) (qa : q a = true) : a = b := by
  induction l with
  | nil => cases ha
  | cons x rest ih =>
      rw [List.find?_cons] at ha hb
      split at ha
      · cases ha
        rw [qa] at hb
        exact Option.some.inj hb
      · next passed =>
        split at hb
        · cases hb
          rw [pb] at passed
          cases passed
        · exact ih ha hb

/-- Every other generation of full size and full health is older. -/
def Youngest (generations : List Generation) (desired : Int32) (g : Generation) : Prop :=
  ∀ h ∈ generations, h.isServing desired = true → h.name ≠ g.name → instantLe g.created h.created = false

theorem serving?_of_youngest (ordered : generations.Pairwise fun a b => before a b = true)
    (found : find? name generations = some g) (healthy : g.isServing desired = true)
    (youngest : Youngest generations desired g) : serving? generations desired = some g := by
  obtain ⟨member, named⟩ := find?_spec found
  obtain ⟨first, serves⟩ : ∃ first, serving? generations desired = some first :=
    Option.isSome_iff_exists.mp (List.find?_isSome.mpr ⟨g, member, healthy⟩)
  have firstHealthy : first.isServing desired = true := List.find?_some serves
  have notOlder := serving?_youngest ordered serves member healthy
  have same : first.name = g.name := by
    by_contra differs
    have older := youngest first (List.mem_of_find?_eq_some serves) firstHealthy differs
    rw [notOlder] at older
    cases older
  rw [serves, find?_unique serves found healthy (beq_iff_eq.mpr (same.trans named))]

/-! ### Origin -/

theorem oldest?_le (found : oldest? generations = some g) (member : h ∈ generations) :
    instantLe g.created h.created = true := by
  induction generations generalizing g with
  | nil => cases member
  | cons first rest ih =>
      unfold oldest? at found
      cases later : oldest? rest with
      | none =>
          rw [later] at found
          cases found
          cases rest with
          | nil =>
              rw [List.mem_singleton.mp member]
              exact instantLe_refl _
          | cons second others =>
              unfold oldest? at later
              split at later
              · split at later <;> cases later
              · cases later
      | some oldest =>
          rw [later] at found
          dsimp only at found
          split at found
          · next precedes =>
            cases found
            rcases List.mem_cons.mp member with rfl | among
            · exact instantLe_refl _
            · exact instantLe_trans precedes (ih later among)
          · next follows =>
            cases found
            rcases List.mem_cons.mp member with rfl | among
            · exact (instantLe_total h.created g.created).resolve_left follows
            · exact ih later among

theorem oldest?_isSome (member : g ∈ generations) : ∃ oldest, oldest? generations = some oldest := by
  cases generations with
  | nil => cases member
  | cons first rest =>
      unfold oldest?
      split
      · split
        · exact ⟨_, rfl⟩
        · exact ⟨_, rfl⟩
      · exact ⟨_, rfl⟩

theorem oldest?_eq_none : oldest? generations = none ↔ generations = [] := by
  constructor
  · intro none
    cases generations with
    | nil => rfl
    | cons first rest =>
        obtain ⟨oldest, found⟩ := oldest?_isSome (List.mem_cons_self : first ∈ first :: rest)
        rw [none] at found
        cases found
  · rintro rfl
    rfl

theorem mem_others : h ∈ (live generations).filter (·.name != name) ↔
    h ∈ generations ∧ h.isLive = true ∧ h.name ≠ name := by
  rw [List.mem_filter, live, List.mem_filter, bne_iff_ne, and_assoc]

theorem origin?_oldest (member : h ∈ generations) (alive : h.isLive = true) (other : h.name ≠ name) :
    ∃ origin, origin? generations name = some origin ∧
      ∀ x ∈ generations, x.isLive = true → x.name ≠ name → instantLe origin.created x.created = true := by
  obtain ⟨origin, found⟩ := oldest?_isSome (mem_others.mpr ⟨member, alive, other⟩)
  exact ⟨origin, found, fun x among live differs => oldest?_le found (mem_others.mpr ⟨among, live, differs⟩)⟩

theorem origin?_eq_none : origin? generations name = none ↔ ∀ g ∈ generations, 0 < g.replicas → g.name = name := by
  rw [origin?, oldest?_eq_none, List.eq_nil_iff_forall_not_mem]
  simp only [mem_others, isLive_iff]
  constructor
  · intro none g member live
    by_contra differs
    exact none g ⟨member, live, differs⟩
  · intro only g other
    exact other.2.2 (only g other.1 other.2.1)

/-! ### Both -/

/-- Of the generations that StatefulSets and pods make the youngest serves that has the desired size and is fully
healthy, and the origin is the oldest live one besides the update generation. While that serves and another one is live,
there is an origin to move clients from. -/
theorem youngest_serves_oldest_yields (sets : List StatefulSet) (pods : List Pod) (desired : Int32) (update : String) :
    (serving? (collect sets pods) desired = none ↔ ∀ g ∈ collect sets pods, ¬ g.Full desired) ∧
    (∀ s, serving? (collect sets pods) desired = some s → s ∈ collect sets pods ∧ s.Full desired ∧
      ∀ g ∈ collect sets pods, g.Full desired → NotLater g.created s.created) ∧
    (origin? (collect sets pods) update = none ↔ ∀ g ∈ collect sets pods, 0 < g.replicas → g.name = update) ∧
    (∀ o, origin? (collect sets pods) update = some o → o ∈ collect sets pods ∧ 0 < o.replicas ∧ o.name ≠ update ∧
      ∀ g ∈ collect sets pods, 0 < g.replicas → g.name ≠ update → NotLater o.created g.created) ∧
    (∀ s, serving? (collect sets pods) desired = some s → s.name = update →
      (∃ g ∈ collect sets pods, 0 < g.replicas ∧ g.name ≠ update) →
      ∃ o, origin? (collect sets pods) update = some o ∧ o.name ≠ s.name) := by
  refine ⟨serving?_eq_none, ?_, origin?_eq_none, ?_, ?_⟩
  · intro s serves
    refine ⟨List.mem_of_find?_eq_some serves, isServing_iff.mp (List.find?_some serves), fun g member full => ?_⟩
    exact instantLe_iff.mp (serving?_youngest (collect_ordered sets pods) serves member (isServing_iff.mpr full))
  · intro o found
    obtain ⟨member, live, other⟩ := origin?_spec found
    refine ⟨member, isLive_iff.mp live, other, fun g among alive differs => ?_⟩
    exact instantLe_iff.mp (oldest?_le found (mem_others.mpr ⟨among, isLive_iff.mpr alive, differs⟩))
  · rintro s serves rfl ⟨g, member, live, differs⟩
    obtain ⟨o, found, -⟩ := origin?_oldest member (isLive_iff.mpr live) differs
    exact ⟨o, found, (origin?_spec found).2.2⟩

end Generation

end BrokerFleet
