import BrokerFleet.Proofs.Fleet.Listed
import BrokerFleet.Proofs.Generations.Collection
import BrokerFleet.Proofs.Quiescence.Surroundings
import Mathlib.Data.List.Perm.Basic

/-!
What a pass sees of generations. It makes no difference what the gates of their pods say, nor where among the others the
update generation is listed: sorting is stable, so the others stand in one order, and while no more than one generation
is live none of them can come before another one in what is observed.
-/

namespace BrokerFleet

open Kubernetes

/-! ### Lists that differ in where some elements stand -/

section Parted

variable {α β : Type} {p : α → Bool} {a b : List α}

def SameParts (p : α → Bool) (a b : List α) : Prop :=
  a.filter p = b.filter p ∧ a.filter (fun x => !p x) = b.filter fun x => !p x

theorem SameParts.perm (same : SameParts p a b) : a.Perm b := by
  have parts := (List.filter_append_perm p a).symm
  rw [same.1, same.2] at parts
  exact parts.trans (List.filter_append_perm p b)

theorem SameParts.filterMap {q : β → Bool} {f : α → Option β} (agree : ∀ x y, f x = some y → q y = p x)
    (same : SameParts p a b) : SameParts q (a.filterMap f) (b.filterMap f) := by
  have through : ∀ (q' : β → Bool) (p' : α → Bool), (∀ x y, f x = some y → q' y = p' x) → ∀ l : List α,
      (l.filterMap f).filter q' = (l.filter p').filterMap f := by
    intro q' p' agree l
    induction l with
    | nil => rfl
    | cons x rest ih =>
        cases made : f x with
        | none => cases kept : p' x <;> simp [made, kept, ih]
        | some y =>
            have test := agree x y made
            cases kept : p' x <;> simp [made, kept, test, ih]
  refine ⟨?_, ?_⟩
  · rw [through q p agree, through q p agree, same.1]
  · have others : ∀ x y, f x = some y → (!q y) = !p x := fun x y made => congrArg not (agree x y made)
    rw [through _ _ others, through _ _ others, same.2]

theorem append_unique {x y x' y' : List α} (same : x ++ y = x' ++ y') (hx : ∀ e ∈ x, p e = true)
    (hy : ∀ e ∈ y, p e = false) (hx' : ∀ e ∈ x', p e = true) (hy' : ∀ e ∈ y', p e = false) : x = x' ∧ y = y' := by
  have first : ∀ {u v : List α}, (∀ e ∈ u, p e = true) → (∀ e ∈ v, p e = false) → (u ++ v).filter p = u := by
    intro u v hu hv
    rw [List.filter_append, List.filter_eq_self.mpr hu, List.filter_eq_nil_iff.mpr fun e member => by simp [hv e member],
      List.append_nil]
  have fronts : x = x' := (first hx hy).symm.trans ((congrArg _ same).trans (first hx' hy'))
  subst fronts
  exact ⟨rfl, List.append_cancel_left same⟩

theorem filter_mergeSort {le : α → α → Bool} (trans : ∀ x y z, le x y = true → le y z = true → le x z = true)
    (total : ∀ x y, (le x y || le y x) = true) (q : α → Bool) (l : List α) :
    (l.mergeSort le).filter q = (l.filter q).mergeSort le := by
  induction l with
  | nil => simp
  | cons x rest ih =>
      have behind : ∀ {l u v : List α}, l.mergeSort le = u ++ x :: v → ∀ y ∈ v, le x y = true := by
        intro l u v placed y member
        have sorted := List.pairwise_mergeSort trans total l
        rw [placed] at sorted
        exact (List.pairwise_cons.mp (List.pairwise_append.mp sorted).2.1).1 y member
      obtain ⟨u, v, placed, parted, before⟩ := List.mergeSort_cons trans total x rest
      have left : u.filter q ++ v.filter q = (rest.filter q).mergeSort le := by
        rw [← List.filter_append, ← parted, ih]
      rw [placed, List.filter_append]
      cases kept : q x with
      | false => rw [List.filter_cons_of_neg (by simp [kept]), List.filter_cons_of_neg (by simp [kept]), left]
      | true =>
          obtain ⟨u', v', placed', parted', before'⟩ := List.mergeSort_cons trans total x (rest.filter q)
          obtain ⟨fronts, backs⟩ : u.filter q = u' ∧ v.filter q = v' := by
            refine append_unique (p := fun y => !le x y) (left.trans parted') ?_ ?_ before' ?_
            · exact fun y member => before y (List.mem_filter.mp member).1
            · exact fun y member => by rw [behind placed y (List.mem_filter.mp member).1]; rfl
            · exact fun y member => by rw [behind placed' y member]; rfl
          rw [List.filter_cons_of_pos kept, List.filter_cons_of_pos kept, placed', fronts, backs]

theorem SameParts.mergeSort {le : α → α → Bool} (trans : ∀ x y z, le x y = true → le y z = true → le x z = true)
    (total : ∀ x y, (le x y || le y x) = true) (same : SameParts p a b) :
    SameParts p (a.mergeSort le) (b.mergeSort le) := by
  refine ⟨?_, ?_⟩
  · rw [filter_mergeSort trans total, filter_mergeSort trans total, same.1]
  · rw [filter_mergeSort trans total, filter_mergeSort trans total, same.2]

end Parted

/-! ### What gates say -/

def Kubernetes.Pod.ungated (pod : Pod) : Pod :=
  { pod with conditions := pod.conditions.filter (·.type != servingGate) }

def Replica.ungated (r : Replica) : Replica :=
  { r with serving := none }

def Generation.ungated (g : Generation) : Generation :=
  { g with pods := g.pods.map Replica.ungated }

namespace Kubernetes.Pod

variable {pod : Pod} {serving : Bool}

theorem gated_type (c : PodCondition) : (c.gated serving).type = c.type := by
  unfold PodCondition.gated
  split <;> rfl

theorem gated_shows : (pod.gated serving).condition? servingGate = some serving := by
  unfold gated condition?
  dsimp only
  split
  · next known =>
    have kept : ((fun c : PodCondition => c.type == servingGate) ∘ fun c : PodCondition => c.gated serving) =
        fun c : PodCondition => c.type == servingGate :=
      funext fun c => by rw [Function.comp_apply, gated_type]
    obtain ⟨c, found⟩ := Option.isSome_iff_exists.mp (List.find?_isSome.mpr (List.any_eq_true.mp known))
    have type : c.type = servingGate := by simpa using List.find?_some found
    rw [List.find?_map, kept, found, Option.map_some, Option.map_some, PodCondition.gated, if_pos type]
  · next unknown =>
    have none : pod.conditions.find? (·.type == servingGate) = none := by
      simpa [List.find?_eq_none] using unknown
    simp [List.find?_append, none]

theorem gated_ungated : (pod.gated serving).ungated = pod.ungated := by
  have mapped : ∀ l : List PodCondition,
      (l.map (·.gated serving)).filter (·.type != servingGate) = l.filter (·.type != servingGate) := by
    intro l
    induction l with
    | nil => rfl
    | cons c rest ih =>
        rw [List.map_cons, List.filter_cons, List.filter_cons, gated_type, ih, PodCondition.gated]
        by_cases same : c.type = servingGate
        · simp [same]
        · simp [same]
  unfold gated ungated
  dsimp only
  split
  · rw [mapped]
  · rw [List.filter_append]
    simp

theorem ungated_condition? {type : String} (other : type ≠ servingGate) :
    pod.ungated.condition? type = pod.condition? type := by
  unfold condition? ungated
  rw [List.find?_filter]
  congr 2
  funext c
  by_cases same : c.type = type
  · simp [same, other]
  · simp [same]

theorem ofPod_ungated : Replica.ofPod pod.ungated = (Replica.ofPod pod).ungated := by
  have blank : pod.ungated.condition? servingGate = none := by
    simp [condition?, ungated, List.find?_filter]
  unfold Replica.ofPod Replica.ungated
  rw [blank, ungated_condition? (by decide)]
  rfl

end Kubernetes.Pod

namespace Generation

variable {generations a b : List Generation} {name : String} {update : Option String} {desired : Int32}

@[simp] theorem ungated_created (g : Generation) : g.ungated.created = g.created := rfl

@[simp] theorem ungated_isLive (g : Generation) : g.ungated.isLive = g.isLive := rfl

@[simp] theorem ungated_readyReplicas (g : Generation) : g.ungated.readyReplicas = g.readyReplicas := by
  unfold readyReplicas ungated
  rw [List.countP_map]
  rfl

@[simp] theorem ungated_isServing (g : Generation) : g.ungated.isServing desired = g.isServing desired := by
  unfold isServing
  rw [ungated_isLive, ungated_readyReplicas]
  rfl

@[simp] theorem ungated_status (g : Generation) : g.ungated.status = g.status := by
  unfold status
  rw [ungated_readyReplicas]
  rfl

theorem collect_ungated (sets : List StatefulSet) (pods : List Pod) :
    collect sets (pods.map Pod.ungated) = (collect sets pods).map ungated := by
  have owners : ∀ pod : Pod, pod.ungated.owners = pod.owners := fun _ => rfl
  exact collect_map owners (fun _ => Pod.ofPod_ungated) (fun _ => rfl) sets pods

theorem live_ungated : live (generations.map ungated) = (live generations).map ungated := by
  unfold live
  rw [List.filter_map]
  rfl

theorem oldest?_ungated : oldest? (generations.map ungated) = (oldest? generations).map ungated := by
  induction generations with
  | nil => rfl
  | cons g rest ih =>
      rw [List.map_cons, oldest?, oldest?, ih]
      cases oldest? rest with
      | none => rfl
      | some h =>
          by_cases older : instantLe g.created h.created = true
          · simp [older]
          · simp [older]

theorem chooseReplica?_ungated :
    chooseReplica? (generations.map ungated) update = (chooseReplica? generations update).map Replica.ungated := by
  have pods : ∀ l : List Generation, (l.map ungated).flatMap (·.pods) = (l.flatMap (·.pods)).map Replica.ungated := by
    intro l
    rw [List.flatMap_map, List.map_flatMap]
    rfl
  unfold chooseReplica?
  dsimp only
  rw [List.filter_map, List.filter_map, ← List.map_append, pods, List.find?_map]
  rfl

theorem observe_ungated {c : Cluster} {initReady : Bool} {nodes : List ClusterNode} :
    c.observe initReady nodes (generations.map ungated) update = c.observe initReady nodes generations update := by
  have counted : (live (generations.map ungated)).length = (live generations).length := by
    rw [live_ungated, List.length_map]
  have serving : (serving? (generations.map ungated) c.spec.replicas).map status =
      (serving? generations c.spec.replicas).map status := by
    unfold serving?
    rw [List.find?_map, Option.map_map]
    congr 1
    · exact funext ungated_status
    · exact congrArg (generations.find? ·) (funext ungated_isServing)
  have found : ∀ name, (find? name (generations.map ungated)).map status = (find? name generations).map status := by
    intro name
    unfold find?
    rw [List.find?_map, Option.map_map]
    exact congrArg (Option.map · _) (funext ungated_status)
  have origin : ∀ name, (origin? (generations.map ungated) name).map (·.name) =
      (origin? generations name).map (·.name) := by
    intro name
    unfold origin?
    rw [live_ungated, List.filter_map, oldest?_ungated, Option.map_map]
    rfl
  unfold Cluster.observe
  cases update with
  | none => simp only [counted, serving, Option.bind_none]
  | some name => simp only [counted, serving, found, origin, Option.bind_some]

/-! ### Where the update generation stands -/

abbrev Alike (name : String) (a b : List Generation) : Prop :=
  SameParts (·.name == name) a b

theorem Alike.chooseReplica? (alike : Alike name a b) :
    chooseReplica? a (some name) = chooseReplica? b (some name) := by
  have preferred : ∀ l : List Generation, l.filter (fun g => some g.name == some name) = l.filter (·.name == name) :=
    fun l => rfl
  have rest : ∀ l : List Generation, l.filter (fun g => some g.name != some name) = l.filter fun g => !(g.name == name) :=
    fun l => rfl
  unfold Generation.chooseReplica?
  rw [preferred, preferred, rest, rest, alike.1, alike.2]

theorem Alike.serving? (alike : Alike name a b) (single : (live a).length ≤ 1) :
    serving? a desired = serving? b desired := by
  have only : ∀ x ∈ a, ∀ y ∈ a, x.isServing desired = true → y.isServing desired = true → x = y := by
    intro x hx y hy healthy healthy'
    by_contra differ
    have several := one_lt_live hx hy (isLive_of_isServing healthy) (isLive_of_isServing healthy') differ
    omega
  unfold Generation.serving?
  cases found : a.find? (isServing desired) with
  | none =>
      refine (List.find?_eq_none.mpr fun x member => ?_).symm
      exact List.find?_eq_none.mp found x (alike.perm.mem_iff.mpr member)
  | some g =>
      have member := List.mem_of_find?_eq_some found
      have healthy := List.find?_some found
      cases found' : b.find? (isServing desired) with
      | none => exact absurd healthy (List.find?_eq_none.mp found' g (alike.perm.mem_iff.mp member))
      | some h =>
          have member' := alike.perm.mem_iff.mpr (List.mem_of_find?_eq_some found')
          rw [only g member h member' healthy (List.find?_some found')]

theorem Alike.observe (alike : Alike name a b) (single : (live a).length ≤ 1) {c : Cluster} {initReady : Bool}
    {nodes : List ClusterNode} : c.observe initReady nodes a (some name) = c.observe initReady nodes b (some name) := by
  have counted : (live a).length = (live b).length := (alike.perm.filter isLive).length_eq
  have found : find? name a = find? name b := by
    rw [find?, find?, ← List.head?_filter, alike.1, List.head?_filter]
  have origin : origin? a name = origin? b name := by
    have others : ∀ l : List Generation,
        (live l).filter (·.name != name) = (l.filter fun g => !(g.name == name)).filter isLive :=
      fun l => List.filter_comm ..
    rw [origin?, origin?, others, others, alike.2]
  unfold Cluster.observe
  rw [counted, alike.serving? single]
  simp only [Option.bind_some, found, origin]

theorem collect_alike {sets sets' : List StatefulSet} (same : SameParts (·.name == some name) sets sets')
    (pods : List Pod) : Alike name (collect sets pods) (collect sets' pods) := by
  have named : ∀ set g, ofSet? pods set = some g → (g.name == name) = (set.name == some name) := by
    intro set g made
    rw [(isOf_of_ofSet? made).name]
    rfl
  exact (same.filterMap named).mergeSort (fun _ _ _ => before_trans) before_total

def Resembles (name : String) (a b : List Generation) : Prop :=
  Alike name (a.map ungated) (b.map ungated)

theorem collect_resembles {sets sets' : List StatefulSet} {pods pods' : List Pod}
    (same : SameParts (·.name == some name) sets sets') (gates : pods'.map Pod.ungated = pods.map Pod.ungated) :
    Resembles name (collect sets pods) (collect sets' pods') := by
  unfold Resembles
  rw [← collect_ungated, ← collect_ungated, gates]
  exact collect_alike same _

theorem Resembles.observe (resembles : Resembles name a b) (single : (live a).length ≤ 1) {c : Cluster}
    {initReady : Bool} {nodes : List ClusterNode} :
    c.observe initReady nodes b (some name) = c.observe initReady nodes a (some name) := by
  have single : (live (a.map ungated)).length ≤ 1 := by rwa [live_ungated, List.length_map]
  calc c.observe initReady nodes b (some name)
      = c.observe initReady nodes (b.map ungated) (some name) := observe_ungated.symm
    _ = c.observe initReady nodes (a.map ungated) (some name) := (Alike.observe resembles single).symm
    _ = c.observe initReady nodes a (some name) := observe_ungated

theorem Resembles.chooseReplica? (resembles : Resembles name a b) :
    (chooseReplica? b (some name)).map (·.name) = (chooseReplica? a (some name)).map (·.name) := by
  have named : ∀ l : List Generation, (Generation.chooseReplica? l (some name)).map (·.name) =
      (Generation.chooseReplica? (l.map ungated) (some name)).map (·.name) := by
    intro l
    rw [chooseReplica?_ungated, Option.map_map]
    rfl
  rw [named a, named b, Alike.chooseReplica? resembles]

theorem Resembles.replica (resembles : Resembles name a b) {r : Replica} (member : r ∈ b.flatMap (·.pods)) :
    ∃ other ∈ a.flatMap (·.pods), other.name = r.name ∧ other.hash = r.hash := by
  obtain ⟨g, among, has⟩ := List.mem_flatMap.mp member
  obtain ⟨h, there, same⟩ := List.mem_map.mp ((SameParts.perm resembles).mem_iff.mpr (List.mem_map_of_mem among))
  have shown : r.ungated ∈ h.ungated.pods := same ▸ List.mem_map_of_mem has
  obtain ⟨other, has', agrees⟩ := List.mem_map.mp shown
  have named : other.ungated.name = r.ungated.name := congrArg Replica.name agrees
  have hashed : other.ungated.hash = r.ungated.hash := congrArg Replica.hash agrees
  exact ⟨other, List.mem_flatMap.mpr ⟨h, there, has'⟩, named, hashed⟩

theorem mem_pods_collect {sets : List StatefulSet} {pods : List Pod} {r : Replica}
    (member : r ∈ (collect sets pods).flatMap (·.pods)) : ∃ pod ∈ pods, r = .ofPod pod := by
  obtain ⟨g, among, has⟩ := List.mem_flatMap.mp member
  obtain ⟨pod, owned, same⟩ := List.mem_map.mp ((pods_of_collect among).mem_iff.mp has)
  exact ⟨pod, (List.mem_filter.mp owned).1, same.symm⟩

end Generation

/-! ### Where a set that was written is listed -/

namespace SetStore

variable {s after : SetStore} {set : StoredSet} {ns name selector : String}

theorem filter_name {sets : List StatefulSet} {set : StatefulSet} (distinct : sets.Pairwise fun a b => a.name ≠ b.name)
    (member : set ∈ sets) : sets.filter (·.name == set.name) = [set] := by
  induction sets with
  | nil => cases member
  | cons first rest ih =>
      obtain ⟨apart, others⟩ := List.pairwise_cons.mp distinct
      rcases List.mem_cons.mp member with rfl | later
      · have none : rest.filter (·.name == set.name) = [] := by
          refine List.filter_eq_nil_iff.mpr fun other among same => ?_
          exact apart other among (beq_iff_eq.mp same).symm
        rw [List.filter_cons, beq_self_eq_true, if_pos rfl, none]
      · rw [List.filter_cons, if_neg fun same => apart set later (beq_iff_eq.mp same), ih others later]

theorem filter_putSet {sets : List StatefulSet} (distinct : sets.Pairwise fun a b => a.name ≠ b.name)
    (set : StatefulSet) : (Cluster.putSet set sets).filter (·.name == set.name) = [set] ∧
      (Cluster.putSet set sets).filter (fun other => !(other.name == set.name)) =
        sets.filter fun other => !(other.name == set.name) := by
  induction sets with
  | nil => simp [Cluster.putSet]
  | cons first rest ih =>
      obtain ⟨apart, others⟩ := List.pairwise_cons.mp distinct
      unfold Cluster.putSet
      by_cases same : first.name = set.name
      · have gone : rest.filter (·.name == set.name) = [] := by
          refine List.filter_eq_nil_iff.mpr fun other among named => ?_
          exact apart other among (same.trans (beq_iff_eq.mp named).symm)
        simp [same, gone]
      · simp [same, ih others]

theorem Put.sameParts (put : Put set s after) (keyed : s.Keyed) (selected : set ∈ after.selected ns selector) :
    SameParts (·.name == some set.name) (Cluster.putSet set.shown (s.listing ns selector))
      (after.listing ns selector) := by
  obtain ⟨-, placed, -⟩ := mem_selected.mp selected
  have others : ∀ t : SetStore, (t.listing ns selector).filter (fun other => !(other.name == some set.name)) =
      ((t.without set.key).selected ns selector).map (·.shown) := by
    intro t
    unfold listing SetStore.selected SetStore.without
    rw [List.filter_map, List.filter_filter, List.filter_filter]
    congr 1
    refine List.filter_congr fun other _ => ?_
    by_cases here : other.ns = ns
    · have keys : (other.key != set.key) = !(other.shown.name == some set.name) := by
        refine congrArg not (Bool.eq_iff_iff.mpr ?_)
        rw [beq_iff_eq, beq_iff_eq]
        constructor
        · intro same
          exact StoredSet.shown_name.mpr (congrArg Prod.snd same)
        · intro same
          exact Prod.ext (here.trans placed.symm) (StoredSet.shown_name.mp same)
      rw [keys]
      exact Bool.and_comm ..
    · have away : (other.ns == ns) = false := beq_eq_false_iff_ne.mpr here
      simp only [Function.comp, away, Bool.false_and, Bool.and_false]
  obtain ⟨named, left⟩ := filter_putSet (keyed.names_distinct ns selector) set.shown
  have alone := filter_name ((put.keyed keyed).names_distinct ns selector) (List.mem_map_of_mem selected)
  rw [set.named] at named left alone
  refine ⟨named.trans alone.symm, left.trans ?_⟩
  rw [others after, put.without]
  exact others s

end SetStore

end BrokerFleet
