import BrokerFleet.Proofs.Evacuation.Aim
import BrokerFleet.Proofs.Generations.Selection

/-!
When the update generation takes over. Of the generations that are of full size and fully healthy the youngest
serves, whatever the desired template is. So a healthy update generation serves, and clients begin to move to it
from the oldest other one, while all its rivals are older; a younger rival keeps it from serving for as long as
that rival is healthy.
-/

namespace BrokerFleet

open Kubernetes

namespace Generation

variable {generations : List Generation} {desired : Int32} {name : String} {g h : Generation}

theorem serving?_of_same_name {first : Generation} (serves : serving? generations desired = some first)
    (found : find? name generations = some g) (healthy : g.isServing desired = true)
    (same : first.name = g.name) : serving? generations desired = some g := by
  rw [serves, find?_unique serves found healthy (beq_iff_eq.mpr (same.trans (find?_spec found).2))]

theorem serving?_overtaken (ordered : generations.Pairwise fun a b => before a b = true)
    (found : find? name generations = some g) (healthy : g.isServing desired = true)
    (member : h ∈ generations) (rival : h.isServing desired = true)
    (younger : instantLe h.created g.created = false) :
    ∃ first, serving? generations desired = some first ∧ first.name ≠ g.name := by
  obtain ⟨first, serves⟩ : ∃ first, serving? generations desired = some first :=
    Option.isSome_iff_exists.mp (List.find?_isSome.mpr ⟨h, member, rival⟩)
  refine ⟨first, serves, fun same => ?_⟩
  have older := serving?_youngest ordered (serving?_of_same_name serves found healthy same) member rival
  rw [younger] at older
  cases older

end Generation

/-- The status names the generation as the one that serves, and clients move to it from the oldest other one. -/
def ClusterStatus.HandedTo (s : ClusterStatus) (generations : List Generation) (g : Generation) : Prop :=
  s.currentGeneration = some g.status ∧
    ∃ u origin, s.blueGreenUpdate = some u ∧ u.currentGeneration = g.name ∧
      u.originGeneration = origin.name ∧ origin ∈ generations ∧ origin.isLive = true ∧ origin.name ≠ g.name ∧
      ∀ h ∈ generations, h.isLive = true → h.name ≠ g.name → instantLe origin.created h.created = true

namespace ClusterStatus

variable {s : ClusterStatus} {o : Observation} {now : Instant}

theorem chooseUpdate_of_serving {update : GenerationStatus} {origin : String} (serves : o.updateServes = true)
    (hupdate : o.update = some update) (horigin : o.origin = some origin) :
    ∃ u, s.chooseUpdate o now = some u ∧ u.originGeneration = origin ∧ u.currentGeneration = update.name := by
  unfold chooseUpdate
  rw [serves, hupdate, horigin]
  dsimp only
  split
  · next known =>
    obtain ⟨u, recorded, same⟩ := (Option.any_eq_true ..).mp known
    rw [Bool.and_eq_true, beq_iff_eq, beq_iff_eq] at same
    exact ⟨u, recorded, same⟩
  · exact ⟨_, rfl, rfl, rfl⟩

theorem advance_begins_none (idle : o.updateServes = false) {u : BlueGreenUpdate}
    (h : (s.advance o now).1.blueGreenUpdate = some u) : s.blueGreenUpdate = some u := by
  rcases advance_cases s o now with ⟨-, same⟩ | ⟨-, -, same⟩ | ⟨-, -, -, same⟩ | ⟨-, -, -, same⟩
  · rw [same] at h
    exact h
  · rw [same] at h
    unfold finishUpdate at h
    split at h
    · cases h
    · exact h
  · rw [same] at h
    rcases chooseUpdate_cases h with kept | ⟨_, _, serves, -⟩
    · exact kept
    · rw [idle] at serves
      cases serves
  · rw [same] at h
    cases h

end ClusterStatus

namespace Cluster

variable {c : Cluster} {generations : List Generation} {name : String} {g : Generation} {initReady : Bool}
  {nodes : List ClusterNode}

theorem observe_update (found : Generation.find? name generations = some g) :
    (c.observe initReady nodes generations (some name)).update = some g.status := by
  show (Option.map Generation.status (Generation.find? name generations)) = some g.status
  rw [found]
  rfl

theorem handedTo_of_serving {s : ClusterStatus} (left : s.currentState ≠ .empty) (now : Instant)
    (supports : c.capability.supportsBlueGreen = true) (found : Generation.find? name generations = some g)
    (serves : Generation.serving? generations c.spec.replicas = some g)
    (rival : ∃ h ∈ generations, h.isLive = true ∧ h.name ≠ g.name) :
    ((s.advance (c.observe true nodes generations (some name)) now).1).HandedTo generations g := by
  obtain ⟨h, member, live, other⟩ := rival
  obtain ⟨hg, rfl⟩ := Generation.find?_spec found
  obtain ⟨origin, first, oldest⟩ := Generation.origin?_oldest member live other
  have hupdate : (c.observe true nodes generations (some g.name)).update = some g.status := observe_update found
  have horigin : (c.observe true nodes generations (some g.name)).origin = some origin.name := by
    show (Generation.origin? generations g.name).map (·.name) = some origin.name
    rw [first]
    rfl
  have hserving : (c.observe true nodes generations (some g.name)).serving = some g.status := by
    show (Generation.serving? generations c.spec.replicas).map Generation.status = some g.status
    rw [serves]
    rfl
  have updateServes : (c.observe true nodes generations (some g.name)).updateServes = true := by
    unfold Observation.updateServes
    rw [hupdate, hserving]
    exact beq_self_eq_true g.name
  have several : 1 < (c.observe true nodes generations (some g.name)).liveGenerations :=
    Generation.one_lt_live hg member (Generation.isLive_of_isServing (List.find?_some serves)) live
      fun same => other (same ▸ rfl)
  rw [ClusterStatus.advance_of_several left rfl several supports]
  obtain ⟨u, chosen, from', to'⟩ : ∃ u,
      (s.recorded (c.observe true nodes generations (some g.name)) now).chooseUpdate
        (c.observe true nodes generations (some g.name)) now = some u ∧
      u.originGeneration = origin.name ∧ u.currentGeneration = g.name :=
    ClusterStatus.chooseUpdate_of_serving updateServes hupdate horigin
  refine ⟨?_, u, origin, chosen, to', from', ?_⟩
  · show ((c.observe true nodes generations (some g.name)).serving <|> s.currentGeneration) = some g.status
    rw [hserving]
    rfl
  · obtain ⟨among, alive, differs⟩ := Generation.origin?_spec first
    exact ⟨among, alive, differs, oldest⟩

/-- A healthy update generation takes over while all generations that are as healthy are older. A younger one
keeps it from being observed as serving and no update to it begins. -/
theorem healthy_update_generation_takes_over {sets : List StatefulSet} {pods : List Pod}
    (found : Generation.find? name (Generation.collect sets pods) = some g)
    (healthy : g.isServing c.spec.replicas = true) :
    (Generation.Youngest (Generation.collect sets pods) c.spec.replicas g →
      (∀ initReady nodes,
        (c.observe initReady nodes (Generation.collect sets pods) (some name)).serving = some g.status) ∧
      ∀ (s : ClusterStatus) (nodes : List ClusterNode) (now : Instant), s.currentState ≠ .empty →
        c.capability.supportsBlueGreen = true →
        (∃ h ∈ Generation.collect sets pods, h.isLive = true ∧ h.name ≠ g.name) →
        (s.advance (c.observe true nodes (Generation.collect sets pods) (some name)) now).1.HandedTo
          (Generation.collect sets pods) g) ∧
    ((∃ h ∈ Generation.collect sets pods, h.isServing c.spec.replicas = true ∧
        instantLe h.created g.created = false) →
      ∀ initReady nodes,
        (c.observe initReady nodes (Generation.collect sets pods) (some name)).serving ≠ some g.status ∧
        ∀ (s : ClusterStatus) (now : Instant) (u : BlueGreenUpdate),
          (s.advance (c.observe initReady nodes (Generation.collect sets pods) (some name)) now).1.blueGreenUpdate =
            some u → s.blueGreenUpdate = some u) := by
  have ordered := Generation.collect_ordered sets pods
  constructor
  · intro youngest
    have serves := Generation.serving?_of_youngest ordered found healthy youngest
    refine ⟨fun initReady nodes => ?_, fun s nodes now left supports rival => ?_⟩
    · show (Generation.serving? _ c.spec.replicas).map Generation.status = some g.status
      rw [serves]
      rfl
    · exact handedTo_of_serving left now supports found serves rival
  · intro overtaken initReady nodes
    obtain ⟨h, member, rival, younger⟩ := overtaken
    obtain ⟨first, serves, differs⟩ := Generation.serving?_overtaken ordered found healthy member rival younger
    have hserving : (c.observe initReady nodes (Generation.collect sets pods) (some name)).serving =
        some first.status := by
      show (Generation.serving? _ c.spec.replicas).map Generation.status = some first.status
      rw [serves]
      rfl
    have idle : (c.observe initReady nodes (Generation.collect sets pods) (some name)).updateServes = false := by
      unfold Observation.updateServes
      rw [hserving, observe_update found]
      exact beq_false_of_ne differs.symm
    refine ⟨fun same => ?_, fun s now u h => ClusterStatus.advance_begins_none idle h⟩
    rw [hserving] at same
    exact differs (congrArg GenerationStatus.name (Option.some.inj same))

/-- The second generation of the sample takes over from the first, which is older. -/
theorem second_generation_takes_over : ∃ s : ClusterStatus, s.currentState ≠ .empty ∧
    ((s.advance ((sampleCluster "broker:2" .initial).observe true []
      (Generation.collect [secondSet, firstSet] (samplePods true true)) (some "broker-second"))
      (sampleTime 1)).1).HandedTo (Generation.collect [secondSet, firstSet] (samplePods true true))
      (sampleGeneration "broker-second" "broker:2" 200 true) := by
  have collected : Generation.collect [secondSet, firstSet] (samplePods true true) = sampleGenerations true true :=
    collect_sample (.inr rfl)
  have found : Generation.find? "broker-second" (Generation.collect [secondSet, firstSet] (samplePods true true)) =
      some (sampleGeneration "broker-second" "broker:2" 200 true) := by
    rw [collected]
    rfl
  have taken := (healthy_update_generation_takes_over (c := sampleCluster "broker:2" .initial) found rfl).1
  have youngest : Generation.Youngest (Generation.collect [secondSet, firstSet] (samplePods true true)) 1
      (sampleGeneration "broker-second" "broker:2" 200 true) := by
    intro h member healthy other
    rw [collected] at member
    rcases List.mem_pair.mp member with rfl | rfl
    · exact absurd rfl other
    · rfl
  refine ⟨{ ClusterStatus.initial with currentState := .running }, by decide, ?_⟩
  refine (taken youngest).2 _ [] (sampleTime 1) (by decide) rfl ?_
  refine ⟨sampleGeneration "broker-first" "broker:1" 100 true, ?_, rfl, by decide⟩
  rw [collected]
  exact List.mem_cons_of_mem _ List.mem_cons_self

/-- When the template goes back to that of the older generation, the younger one goes on serving. -/
theorem older_update_generation_kept_from_serving : ¬ ∀ (c : Cluster) (sets : List StatefulSet) (pods : List Pod)
    (name : String) (g : Generation) (initReady : Bool) (nodes : List ClusterNode),
    Generation.find? name (Generation.collect sets pods) = some g → g.isServing c.spec.replicas = true →
    (c.observe initReady nodes (Generation.collect sets pods) (some name)).serving = some g.status := by
  intro serves
  have collected : Generation.collect [firstSet, secondSet] (samplePods true true) = sampleGenerations true true :=
    collect_sample (.inl rfl)
  have found : Generation.find? "broker-first" (Generation.collect [firstSet, secondSet] (samplePods true true)) =
      some (sampleGeneration "broker-first" "broker:1" 100 true) := by
    rw [collected]
    rfl
  have first := serves (sampleCluster "broker:1" .initial) [firstSet, secondSet] (samplePods true true)
    "broker-first" _ true [] found rfl
  have second : ((sampleCluster "broker:1" .initial).observe true []
      (Generation.collect [firstSet, secondSet] (samplePods true true)) (some "broker-first")).serving =
      some (sampleGeneration "broker-second" "broker:2" 200 true).status := by
    rw [collected]
    rfl
  rw [second] at first
  exact absurd (congrArg GenerationStatus.name (Option.some.inj first)) (by decide)

end Cluster

end BrokerFleet
