import BrokerFleet.Proofs.Lifecycle.Turns

/-!
An update is stable. While the spec stays as it is, only the generation of the desired template is ever given replicas,
so the origin that a pass recorded stays the oldest live generation besides that one until it is empty. Whatever passes
see in between, the update is neither begun anew nor given up before.
-/

namespace BrokerFleet

open Kubernetes

theorem find?_of_sublist {α : Type} {l l' : List α} {f : α → Bool} {a : α} (sub : l'.Sublist l)
    (nodup : l.Nodup) (found : l.find? f = some a) (member : a ∈ l') : l'.find? f = some a := by
  induction sub with
  | slnil => cases found
  | cons x sub ih =>
      obtain ⟨fresh, nodup⟩ := List.nodup_cons.mp nodup
      rw [List.find?_cons] at found
      split at found
      · cases found
        exact absurd (sub.subset member) fresh
      · exact ih nodup found member
  | cons_cons x sub ih =>
      rw [List.find?_cons] at found ⊢
      split at found
      · exact found
      · next fails =>
        rcases List.mem_cons.mp member with rfl | later
        · rw [List.find?_some found] at fails
          cases fails
        · exact ih (List.nodup_cons.mp nodup).2 found later

theorem Observation.serving_of_updateServes {o : Observation} (serves : o.updateServes = true) :
    ∃ serving, o.serving = some serving := by
  unfold updateServes at serves
  split at serves
  · next serving _ found => exact ⟨_, found⟩
  · cases serves

namespace Cluster

/-- Others leave the generations of the cluster alone; those without replicas they may delete. -/
structure LeavesLive (c : Cluster) (s after : SetStore) : Prop where
  keyed : after.Keyed
  kept : (c.listed after).Sublist (c.listed s)
  live : ∀ set ∈ c.listed s, set.IsLive → set ∈ c.listed after

/-- Passes over the cluster follow each other, while nobody else gives replicas to its generations or takes any. -/
inductive Course (c : Cluster) (w : World) : World → Prop where
  | start : Course c w w
  | turn {w' w'' : World} (course : Course c w w') (turn : c.Turn w' w'') : Course c w w''
  | others {w' : World} {sets : SetStore} (course : Course c w w') (leaves : c.LeavesLive w'.sets sets) :
      Course c w ⟨w'.status, sets⟩

def HasLive (c : Cluster) (s : SetStore) (name : String) : Prop :=
  ∃ set ∈ c.listed s, set.name = some name ∧ set.IsLive

/-- No two live generations were created at the same time. -/
def DistinctAges (c : Cluster) (s : SetStore) : Prop :=
  ∀ a ∈ c.listed s, ∀ b ∈ c.listed s, a.IsLive → b.IsLive → a.created = b.created → a = b

/-- The update is from the oldest live generation besides that of the desired template, which has the desired size. -/
structure Ordered (c : Cluster) (e : Episode) (since : Option Instant) (s : SetStore) : Prop where
  keyed : s.Keyed
  wants : c.Wants s e.current
  sized : ∀ set ∈ c.listed s, set.name = some e.current → set.replicas = some c.spec.replicas
  created : ∀ set ∈ c.listed s, set.name = some e.origin → set.created = since
  younger : ∀ set ∈ c.listed s, set.IsLive → set.name ≠ some e.current → set.name ≠ some e.origin →
    instantLe set.created since = false

/-- The update goes on as long as its origin is live, and no update is from the generation of the desired template. -/
structure Steady (c : Cluster) (e : Episode) (since : Option Instant) (w : World) : Prop where
  ordered : c.Ordered e since w.sets
  supports : c.capability.supportsBlueGreen = true
  desired : 0 < c.spec.replicas
  apart : e.origin ≠ e.current
  others : ∀ u, w.episode = some u → u.origin ≠ e.current
  kept : c.HasLive w.sets e.origin → w.episode = some e

variable {c latest : Cluster} {e : Episode} {since : Option Instant} {s after : SetStore} {status : ClusterStatus}
  {episode : Option Episode} {w w' w₀ w₁ w₂ : World} {name : String}

theorem Wants.set (wants : c.Wants s name) :
    ∃ set ∈ c.listed s, set.name = some name ∧ set.hash.isSome = true := by
  obtain ⟨template, hash, -, adopted⟩ := wants
  obtain ⟨set, member, named, hashed⟩ := resolveGeneration_adopts adopted
  exact ⟨set, member, named, Option.isSome_iff_exists.mpr ⟨hash, hashed⟩⟩

theorem Spares.hasLive (spares : c.Spares e.current s after) (live : c.HasLive after name) : c.HasLive s name := by
  obtain ⟨set, member, named, alive⟩ := live
  obtain ⟨old, there, same, awake, -⟩ := spares.sets set member
  refine ⟨old, there, ?_, awake alive⟩
  rw [same] at named
  exact named

theorem Ordered.spared (ordered : c.Ordered e since s) (spares : c.Spares e.current s after)
    (wants : c.Wants after e.current) : c.Ordered e since after where
  keyed := spares.keyed
  wants := wants
  sized := by
    intro set member named
    obtain ⟨old, there, -, -, same⟩ := spares.sets set member
    obtain rfl := same named
    exact ordered.sized set there named
  created := by
    intro set member named
    obtain ⟨old, there, same, -, -⟩ := spares.sets set member
    rw [same] at named ⊢
    exact ordered.created old there named
  younger := by
    intro set member live other other'
    obtain ⟨old, there, same, awake, -⟩ := spares.sets set member
    have alive := awake live
    rw [same] at other other' ⊢
    exact ordered.younger old there alive other other'

/-- While the origin is live, a pass finds that it is the origin of an update to the generation of the desired
template. -/
theorem Ordered.observe {sets : List StatefulSet} {pods : List Pod} {ready : Bool} {nodes : List ClusterNode}
    (ordered : c.Ordered e since s) (desired : 0 < c.spec.replicas) (apart : e.origin ≠ e.current)
    (live : c.HasLive s e.origin) (collects : ∀ set, set ∈ sets ↔ set ∈ c.listed s) :
    1 < (c.observe ready nodes (Generation.collect sets pods) (some e.current)).liveGenerations ∧
      ∀ update origin, (c.observe ready nodes (Generation.collect sets pods) (some e.current)).update = some update →
        (c.observe ready nodes (Generation.collect sets pods) (some e.current)).origin = some origin →
        origin = e.origin ∧ update.name = e.current := by
  obtain ⟨leaving, there, named, alive⟩ := live
  obtain ⟨g, member, isOf⟩ := Generation.mem_collect_of_hash ((collects _).mpr there) named alive.1 pods
  have gLive : g.isLive = true := isOf.live_iff.mpr alive
  have gNamed : g.name = e.origin := Option.some.inj (isOf.name.symm.trans named)
  obtain ⟨current, there', named', hashed⟩ := ordered.wants.set
  obtain ⟨h, member', isOf'⟩ := Generation.mem_collect_of_hash ((collects _).mpr there') named' hashed pods
  have hNamed : h.name = e.current := Option.some.inj (isOf'.name.symm.trans named')
  have hLive : h.isLive = true := by
    refine isOf'.live_iff.mpr ⟨hashed, ?_⟩
    rw [ordered.sized current there' named']
    exact desired
  have differ : g ≠ h := fun same => apart (by rw [← gNamed, same, hNamed])
  refine ⟨Generation.one_lt_live member member' gLive hLive differ, fun update origin hupdate horigin => ?_⟩
  obtain ⟨found, hfound, rfl⟩ := Option.map_eq_some_iff.mp hupdate
  refine ⟨?_, (Generation.find?_spec hfound).2⟩
  obtain ⟨first, hfirst, rfl⟩ := Option.map_eq_some_iff.mp horigin
  obtain ⟨among, firstLive, other⟩ := Generation.origin?_spec hfirst
  have gOther : g.name ≠ e.current := gNamed ▸ apart
  have older : instantLe first.created g.created = true :=
    Generation.oldest?_le hfirst (Generation.mem_others.mpr ⟨member, gLive, gOther⟩)
  obtain ⟨set, listed, firstOf⟩ := Generation.mem_collect among
  by_contra differs
  have later := ordered.younger set ((collects _).mp listed) (firstOf.live_iff.mp firstLive)
    (fun same => other (Option.some.inj (firstOf.name.symm.trans same)))
    (fun same => differs (Option.some.inj (firstOf.name.symm.trans same)))
  rw [← ordered.created leaving there named, firstOf.created, isOf.created, older] at later
  cases later

/-! ### Turns -/

theorem Sheds.spares {sets : List StatefulSet} {pods : List Pod}
    (sheds : c.Sheds (Generation.collect sets pods) episode s after) (keyed : s.Keyed) (wants : c.Wants s name)
    (collects : ∀ set, set ∈ sets ↔ set ∈ c.listed s) (other : ∀ u, episode = some u → u.origin ≠ name) :
    c.Spares name s after ∧ c.Wants after name := by
  obtain ⟨ns, g, u, replicas, reply, place, member, live, known, named, written⟩ := sheds
  obtain ⟨set, listed, isOf⟩ := Generation.mem_collect member
  obtain ⟨spares, existing⟩ := spares_of_scaled keyed place ((collects _).mp listed) (isOf.live_iff.mp live)
    isOf.name (named ▸ other u known) written
  obtain ⟨template, hash, desired, adopted⟩ := wants
  rw [← existing] at adopted
  exact ⟨spares, template, hash, desired, adopted⟩

theorem LeavesLive.spares (leaves : c.LeavesLive s after) (keyed : s.Keyed) (wants : c.Wants s name)
    (live : c.HasLive s name) : c.Spares name s after ∧ c.Wants after name := by
  refine ⟨⟨leaves.keyed, fun set member => ?_⟩, ?_⟩
  · exact ⟨set, leaves.kept.subset member, rfl, fun live => live, fun _ => rfl⟩
  obtain ⟨template, hash, desired, adopted⟩ := wants
  obtain ⟨current, there, named, hashed⟩ := resolveGeneration_adopts adopted
  obtain ⟨set, member, named', alive⟩ := live
  obtain rfl := eq_of_name keyed there member (named.trans named'.symm)
  have stays : ⟨name, some hash⟩ ∈ existingOf (c.listed after) := by
    refine List.mem_filterMap.mpr ⟨current, leaves.live current there alive, ?_⟩
    rw [named, hashed]
    rfl
  have distinct : (existingOf (c.listed s)).Nodup := by
    refine (names_distinct keyed).filterMap _ fun a b differ x hx y hy same => differ ?_
    obtain ⟨text, named, rfl⟩ := Option.map_eq_some_iff.mp hx
    obtain ⟨text', named', rfl⟩ := Option.map_eq_some_iff.mp hy
    rw [named, named', (Generation.Existing.mk.inj same).1]
  obtain ⟨rfl, found⟩ := Generation.find?_of_adopt (resolveGeneration_eq_ok.mp adopted)
  have again := find?_of_sublist (leaves.kept.filterMap _) distinct found stays
  exact ⟨template, _, desired, resolveGeneration_eq_ok.mpr (Generation.resolve?_of_find? again)⟩

theorem Steady.leads (steady : c.Steady e since w) (known : status.episode = w.episode)
    (leads : c.Leads status w.sets episode after) : c.Ordered e since after ∧
      (∀ u, episode = some u → u.origin ≠ e.current) ∧
      (c.HasLive after e.origin → c.HasLive w.sets e.origin ∧ episode = some e) := by
  obtain ⟨ordered, supports, desired, apart, others, kept⟩ := steady
  rw [← known] at others kept
  cases leads with
  | idle => exact ⟨ordered, others, fun live => ⟨live, kept live⟩⟩
  | stamped ends along =>
      obtain ⟨rfl, -⟩ := generationStep_rests ordered.keyed ordered.wants ordered.sized ends along
      exact ⟨ordered, others, fun live => ⟨live, kept live⟩⟩
  | observed ready nodes now ends along advances sheds =>
      obtain ⟨rfl, updates⟩ := generationStep_rests ordered.keyed ordered.wants ordered.sized ends along
      obtain ⟨sets, pods, name, collects, rfl⟩ := generationStep_collects ordered.keyed ends along
      cases updates _ rfl
      have away : ∀ u, episode = some u → u.origin ≠ e.current := by
        intro u begins
        by_cases before : status.episode = some u
        · exact others u before
        · obtain ⟨-, -, horigin, update, hupdate, -⟩ :=
            ClusterStatus.advance_begins (advances.symm.trans begins) before
          have differs := ClusterStatus.observe_origin_ne hupdate horigin
          obtain ⟨found, hfound, rfl⟩ := Option.map_eq_some_iff.mp hupdate
          have named : found.name = e.current := (Generation.find?_spec hfound).2
          exact named ▸ differs
      obtain ⟨spares, wants⟩ : c.Spares e.current w.sets after ∧ c.Wants after e.current := by
        rcases sheds with rfl | sheds
        · exact ⟨.refl ordered.keyed, ordered.wants⟩
        · exact sheds.spares ordered.keyed ordered.wants collects away
      refine ⟨ordered.spared spares wants, away, fun live => ?_⟩
      have before := spares.hasLive live
      obtain ⟨several, same⟩ := ordered.observe desired apart before collects
      refine ⟨before, advances.trans ?_⟩
      exact ClusterStatus.advance_keeps_episode (kept before) several supports same

theorem Leads.begins (leads : c.Leads status s episode after) (keyed : s.Keyed) (distinct : c.DistinctAges s)
    (anew : status.episode ≠ some e) (begins : episode = some e) : c.capability.supportsBlueGreen = true ∧
      0 < c.spec.replicas ∧ e.origin ≠ e.current ∧ ∃ since, c.Ordered e since after := by
  cases leads with
  | idle => exact absurd begins anew
  | stamped ends along => exact absurd begins anew
  | @observed p next part between _ ready nodes now _ ends along advances sheds =>
      obtain ⟨ns, name, template, place, desired, named, settles, -⟩ := generationStep_settles keyed ends along
      obtain ⟨sets, pods, name', collects, rfl⟩ := generationStep_collects keyed ends along
      cases named
      obtain ⟨supports, serves, horigin, update, hupdate, current⟩ :=
        ClusterStatus.advance_begins (advances.symm.trans begins) anew
      obtain ⟨serving, hserving⟩ := Observation.serving_of_updateServes serves
      obtain ⟨g, gServes, rfl⟩ := Option.map_eq_some_iff.mp hserving
      have healthy : g.isServing c.spec.replicas = true := List.find?_some gServes
      have wanted : 0 < c.spec.replicas := by
        rw [← Generation.isServing_replicas healthy]
        exact of_decide_eq_true (Generation.isLive_of_isServing healthy)
      obtain ⟨found, hfound, rfl⟩ := Option.map_eq_some_iff.mp hupdate
      obtain rfl : name = e.current := (Generation.find?_spec hfound).2.symm.trans current
      obtain ⟨first, hfirst, leaving⟩ := Option.map_eq_some_iff.mp horigin
      obtain ⟨among, firstLive, away⟩ := Generation.origin?_spec hfirst
      obtain ⟨set, listed, firstOf⟩ := Generation.mem_collect among
      rw [collects] at listed
      have setNamed : set.name = some e.origin := firstOf.name.trans (congrArg some leaving)
      rw [leaving] at away
      have ordered : c.Ordered e first.created between := by
        refine ⟨settles.keyed, settles.wants place desired, fun _ => settles.sized place, ?_, ?_⟩
        · intro other member named
          rw [eq_of_name settles.keyed member listed (named.trans setNamed.symm)]
          exact firstOf.created
        · intro other member live notCurrent notOrigin
          obtain ⟨text, hasName⟩ := named_of_listed member
          obtain ⟨h, collected, otherOf⟩ :=
            Generation.mem_collect_of_hash ((collects other).mpr member) hasName live.1 pods
          have notUpdate : h.name ≠ e.current := fun same => notCurrent (otherOf.name.trans (congrArg some same))
          have older : instantLe first.created h.created = true :=
            Generation.oldest?_le hfirst (Generation.mem_others.mpr ⟨collected, otherOf.live_iff.mpr live, notUpdate⟩)
          by_contra notLater
          rw [Bool.not_eq_false, otherOf.created] at notLater
          -- Both were there before the pass, so they are not of one age.
          have there := settles.listed_before place listed fun same => away (Option.some.inj (setNamed.symm.trans same))
          have there' := settles.listed_before place member notCurrent
          have same := distinct set there other there' (firstOf.live_iff.mp firstLive) live
            (firstOf.created.trans ((instantLe_antisymm older notLater).trans otherOf.created.symm))
          exact notOrigin (same ▸ setNamed)
      refine ⟨supports, wanted, away, first.created, ?_⟩
      rcases sheds with rfl | sheds
      · exact ordered
      · obtain ⟨spares, wants⟩ := sheds.spares settles.keyed ordered.wants collects fun u same => by
          cases begins.symm.trans same
          exact away
        exact ordered.spared spares wants

/-! ### Courses -/

theorem IsShown.ordered (shown : c.IsShown w latest) : latest.Ordered e since s ↔ c.Ordered e since s := by
  have listed := shown.edited.listed
  have wants := shown.edited.wants
  constructor
  · rintro ⟨keyed, wanted, sized, created, younger⟩
    rw [wants] at wanted
    rw [listed, shown.spec] at sized
    rw [listed] at created younger
    exact ⟨keyed, wanted, sized, created, younger⟩
  · rintro ⟨keyed, wanted, sized, created, younger⟩
    rw [← wants] at wanted
    rw [← listed, ← shown.spec] at sized
    rw [← listed] at created younger
    exact ⟨keyed, wanted, sized, created, younger⟩

theorem IsShown.capability (shown : c.IsShown w latest) : latest.capability = c.capability := by
  rw [Cluster.capability, Cluster.capability, shown.spec]

theorem IsShown.hasLive (shown : c.IsShown w latest) : latest.HasLive = c.HasLive := by
  unfold HasLive
  rw [shown.edited.listed]

theorem Steady.turn (steady : c.Steady e since w) (turn : c.Turn w w') : c.Steady e since w' := by
  rcases turn.steps with rfl | ⟨latest, pace, log, q, failure, now, shown, run, along, stored⟩
  · exact steady
  have steady' : latest.Steady e since w := by
    obtain ⟨ordered, supports, desired, apart, others, kept⟩ := steady
    refine ⟨shown.ordered.mpr ordered, ?_, ?_, apart, others, ?_⟩
    · rw [shown.capability]
      exact supports
    · rw [shown.spec]
      exact desired
    · rw [shown.hasLive]
      exact kept
  obtain ⟨ordered, others, kept⟩ := steady'.leads rfl (runSteps_leads run along)
  rw [shown.hasLive] at kept
  have left : w'.episode = w.episode ∨ w'.episode = q.status.episode := by
    unfold World.episode
    rcases stored with same | same
    · exact .inl (by rw [same])
    · exact .inr (by rw [same, Option.getD_some, settled_episode])
  refine ⟨shown.ordered.mp ordered, steady.supports, steady.desired, steady.apart, ?_, fun live => ?_⟩
  · rcases left with same | same
    · rw [same]
      exact steady.others
    · rw [same]
      exact others
  · obtain ⟨before, goes⟩ := kept live
    rcases left with same | same
    · rw [same]
      exact steady.kept before
    · rw [same]
      exact goes

theorem Steady.others_leave (steady : c.Steady e since w) (leaves : c.LeavesLive w.sets after) :
    c.Steady e since ⟨w.status, after⟩ := by
  have ordered := steady.ordered
  obtain ⟨current, there, named, hashed⟩ := ordered.wants.set
  have live : c.HasLive w.sets e.current := by
    refine ⟨current, there, named, hashed, ?_⟩
    rw [ordered.sized current there named]
    exact steady.desired
  obtain ⟨spares, wants⟩ := leaves.spares ordered.keyed ordered.wants live
  exact ⟨ordered.spared spares wants, steady.supports, steady.desired, steady.apart, steady.others,
    fun live => steady.kept (spares.hasLive live)⟩

theorem Steady.course (steady : c.Steady e since w) (course : c.Course w w') : c.Steady e since w' := by
  induction course with
  | start => exact steady
  | turn course turn ih => exact ih.turn turn
  | others course leaves ih => exact ih.others_leave leaves

theorem Turn.steady (turn : c.Turn w w') (keyed : w.sets.Keyed) (distinct : c.DistinctAges w.sets)
    (anew : w.episode ≠ some e) (recorded : w'.episode = some e) : ∃ since, c.Steady e since w' := by
  rcases turn.steps with rfl | ⟨latest, pace, log, q, failure, now, shown, run, along, same | same⟩
  · exact absurd recorded anew
  · unfold World.episode at recorded
    rw [same] at recorded
    exact absurd recorded anew
  have begins : q.status.episode = some e := by
    unfold World.episode at recorded
    rw [same, Option.getD_some, settled_episode] at recorded
    exact recorded
  unfold DistinctAges at distinct
  rw [← shown.edited.listed] at distinct
  obtain ⟨supports, desired, apart, since, ordered⟩ :=
    (runSteps_leads run along).begins keyed distinct anew begins
  rw [shown.capability] at supports
  rw [shown.spec] at desired
  refine ⟨since, shown.ordered.mp ordered, supports, desired, apart, fun u known => ?_, fun _ => recorded⟩
  cases recorded.symm.trans known
  exact apart

/-- Once a pass has recorded an update, it stays recorded with its origin, its current generation and its start for as
long as the origin is live, and the current generation stays that of the desired template. What was recorded under
another template is not meant: that update begins anew when the generation of the desired template serves. -/
theorem update_stable (keyed : w₀.sets.Keyed) (distinct : c.DistinctAges w₀.sets) (turn : c.Turn w₀ w₁)
    (anew : w₀.episode ≠ some e) (recorded : w₁.episode = some e) (course : c.Course w₁ w₂)
    (live : c.HasLive w₂.sets e.origin) : w₂.episode = some e ∧ c.Wants w₂.sets e.current := by
  obtain ⟨since, steady⟩ := turn.steady keyed distinct anew recorded
  have later := steady.course course
  exact ⟨later.kept live, later.ordered.wants⟩

end Cluster

def storedGeneration (name image created : String) (shown : StatefulSet)
    (reads : ofJson? (generationDocument "broker" name (sampleHash image) created) = some shown)
    (named : shown.name = some name) : StoredSet where
  ns := "default"
  name := name
  object := generationDocument "broker" name (sampleHash image) created
  shown := shown
  reads := reads
  named := named
  plain := generationDocument_plain ⟨by decide, templateHash_plain _⟩

def firstStored : StoredSet :=
  storedGeneration "broker-first" "broker:1" "1970-01-01T00:01:40Z" firstSet rfl rfl

def secondStored : StoredSet :=
  storedGeneration "broker-second" "broker:2" "1970-01-01T00:03:20Z" secondSet rfl rfl

def sampleSets : SetStore :=
  [secondStored, firstStored]

theorem sampleSets_listing : sampleSets.listing "default" (sampleCluster "broker:2" .initial).selector =
    [secondSet, firstSet] := by
  rfl

theorem sampleSets_listed : (sampleCluster "broker:2" .initial).listed sampleSets = [secondSet, firstSet] := by
  have place : (sampleCluster "broker:2" .initial).placed = .ok "default" := rfl
  rw [Cluster.listed_of_placed place]
  exact sampleSets_listing

theorem sample_turn {s : ClusterStatus} {secondReady : Bool} {replica : Replica} {now : Instant}
    (left : s.currentState ≠ .empty)
    (chosen : Generation.chooseReplica? (sampleGenerations true secondReady) (some "broker-second") = some replica)
    (recorded : (sampleArrival "broker:2" "broker-second" true secondReady replica.name s now).status.blueGreenUpdate =
      some sampleUpdate)
    (elapsed : BlueGreenUpdate.delayRemaining? sampleUpdate.startedAt 0 now = none) :
    ∃ s' : ClusterStatus, (sampleCluster "broker:2" .initial).Turn ⟨some s, sampleSets⟩ ⟨some s', sampleSets⟩ ∧
      s'.currentState ≠ .empty ∧ s'.blueGreenUpdate = some sampleUpdate := by
  obtain ⟨before, later, asked, answered, arrives⟩ := sample_reaches default "broker:2" "broker-second" true
    secondReady left (.inr rfl) rfl rfl chosen now
  have found : Generation.find? "broker-first" (sampleGenerations true secondReady) =
      some (sampleGeneration "broker-first" "broker:1" 100 true) := rfl
  have named : (sampleGeneration "broker-first" "broker:1" 100 true).pods.mapM
      (fun pod => (sampleCluster "broker:2" s).nodeOf pod.name) = .ok [sampleNode] := rfl
  have fails := Cluster.evacuationStep_unanswered (c := sampleCluster "broker:2" s) default recorded rfl elapsed
    rfl found (lastReplica?_sample true) named (.client "no answer")
  have run := Cluster.runSteps_fails arrives fails
  have edited : (sampleCluster "broker:2" .initial).EditedTo (sampleCluster "broker:2" s) :=
    ⟨rfl, rfl, rfl, 1, none, .enterprise, ⟨0, default⟩, rfl⟩
  refine ⟨_, Cluster.turn_of_failure (w := ⟨some s, sampleSets⟩) ⟨edited, rfl, rfl⟩ rfl rfl run ?_ now, ?_, recorded⟩
  · refine SetStore.along_of_quiet (quiet_append (quiet_append asked (quiet_cons (fun h => h) answered))
      (quiet_cons (fun h => h) (quiet_cons (fun h => h) quiet_nil))) fun ns selector sets member => ?_
    have once := Cluster.runSteps_listsOnce (by decide) run
    cases once _ member _ (List.mem_append_left _ (List.mem_append_right _ List.mem_cons_self)) trivial trivial
    exact sampleSets_listing.symm
  · show (sampleArrival "broker:2" "broker-second" true secondReady replica.name s now).status.currentState ≠ .empty
    rw [sampleArrival]
    dsimp only
    rw [ClusterStatus.advance_currentState]
    exact ClusterStatus.next_ne_empty

/-- An update of the sample goes on while the second generation is not ready. -/
theorem unready_update_stable : ∃ (c : Cluster) (w₀ w₁ w₂ : World) (e : Episode), w₀.sets.Keyed ∧
    c.DistinctAges w₀.sets ∧ c.Turn w₀ w₁ ∧ w₀.episode ≠ some e ∧ w₁.episode = some e ∧ c.Turn w₁ w₂ ∧
    c.HasLive w₂.sets e.origin ∧ w₂.episode = some e := by
  have keyed : sampleSets.Keyed := by
    unfold SetStore.Keyed
    decide
  have distinct : (sampleCluster "broker:2" .initial).DistinctAges sampleSets := by
    unfold Cluster.DistinctAges
    rw [sampleSets_listed]
    intro a ha b hb _ _ same
    rcases List.mem_pair.mp ha with rfl | rfl <;> rcases List.mem_pair.mp hb with rfl | rfl
    · rfl
    · exact absurd same (by decide)
    · exact absurd same (by decide)
    · rfl
  have live : (sampleCluster "broker:2" .initial).HasLive sampleSets "broker-first" := by
    unfold Cluster.HasLive
    rw [sampleSets_listed]
    exact ⟨firstSet, List.mem_cons_of_mem _ List.mem_cons_self, rfl, rfl, show (0 : Int32) < 1 by decide⟩
  have left : ({ ClusterStatus.initial with currentState := .running } : ClusterStatus).currentState ≠ .empty := by
    decide
  obtain ⟨s₁, first, left₁, known₁⟩ := sample_turn left rfl (sample_begins left rfl) (by decide +kernel)
  have goes : (sampleArrival "broker:2" "broker-second" true false "broker-first-0" s₁
      (sampleTime 2)).status.blueGreenUpdate = some sampleUpdate :=
    (sampleArrival_update left₁ _).trans (ClusterStatus.chooseUpdate_kept known₁ fun _ _ serves _ _ => nomatch serves)
  obtain ⟨s₂, second, -, -⟩ := sample_turn left₁ rfl goes (by decide +kernel)
  have recorded : World.episode ⟨some s₁, sampleSets⟩ = some sampleUpdate.episode := congrArg (Option.map _) known₁
  have anew : World.episode ⟨some { ClusterStatus.initial with currentState := .running }, sampleSets⟩ ≠
    some sampleUpdate.episode := fun same => nomatch same
  have course := Cluster.Course.turn .start second
  obtain ⟨stays, -⟩ := Cluster.update_stable keyed distinct first anew recorded course live
  exact ⟨sampleCluster "broker:2" .initial, _, _, ⟨some s₂, sampleSets⟩, sampleUpdate.episode, keyed, distinct, first,
    anew, recorded, second, live, stays⟩

end BrokerFleet
