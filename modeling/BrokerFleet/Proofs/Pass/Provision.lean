import BrokerFleet.Proofs.Generations
import BrokerFleet.Proofs.Generations.Naming
import BrokerFleet.Proofs.Pass.Stamping

/-!
What a pass knows of its update generation. The generation step leaves that one with the desired size, in a set
that was listed so or was written just then; so it is among the generations that the step collects, if the API
shows sets as they were asked for.
-/

namespace BrokerFleet

open Kubernetes Attempt

def Kubernetes.StatefulSet.Stands (set : StatefulSet) (name : String) (replicas : Int32) : Prop :=
  set.name = some name ∧ set.replicas = some replicas ∧ set.hash.isSome = true

/-- The API lists a set under a name of its own, and a set that was written comes back as it was asked for. -/
structure ShowsSets (log : List Exchange) : Prop where
  distinct : ∀ ns selector sets, ⟨.listSets ns selector, .ok sets⟩ ∈ log →
    ∀ a ∈ sets, ∀ b ∈ sets, a.name = b.name → a = b
  scaled : ∀ ns name replicas set, ⟨.write ns (.scaleGeneration name replicas), .ok set⟩ ∈ log →
    set.Stands name replicas
  created : ∀ ns manifest set, ⟨.write ns (.applyGeneration manifest), .ok set⟩ ∈ log →
    set.Stands manifest.metadata.name manifest.replicas

theorem ShowsSets.part {log part : List Exchange} (shows : ShowsSets log) (sub : part ⊆ log) : ShowsSets part where
  distinct ns selector sets member := shows.distinct ns selector sets (sub member)
  scaled ns name replicas set member := shows.scaled ns name replicas set (sub member)
  created ns manifest set member := shows.created ns manifest set (sub member)

theorem Generation.collect_of_stands {sets : List StatefulSet} {set : StatefulSet} {name : String}
    {replicas : Int32} (member : set ∈ sets) (stands : set.Stands name replicas) (pods : List Pod) :
    ∃ g ∈ collect sets pods, g.name = name ∧ g.replicas = replicas := by
  obtain ⟨named, sized, hashed⟩ := stands
  obtain ⟨g, collected, isOf⟩ := mem_collect_of_hash member named hashed pods
  refine ⟨g, collected, Option.some.inj (isOf.name.symm.trans named), ?_⟩
  rw [← isOf.replicas, sized]
  rfl

namespace Cluster

variable {c : Cluster} {p next : ClusterPass} {log : List Exchange}

theorem mem_putSet_self {written : StatefulSet} {sets : List StatefulSet} : written ∈ putSet written sets := by
  induction sets with
  | nil => exact List.mem_singleton.mpr rfl
  | cons set rest ih =>
      unfold putSet
      split
      · exact List.mem_cons_self
      · exact List.mem_cons_of_mem _ ih

theorem manifestOf_replicas {name hash : String} {manifest : GenerationManifest}
    (h : c.manifestOf name hash = .ok manifest) : manifest.replicas = c.spec.replicas := by
  obtain ⟨_, rfl⟩ := manifestOf_eq h
  rfl

theorem resolveGeneration_eq_ok {template : PodTemplate} {existing : List Generation.Existing}
    {resolved : Generation.Resolved} : c.resolveGeneration template existing = .ok resolved ↔
      Generation.resolve? (Generation.saltedHash (Generation.hashedText template.spec)) c.name existing =
        some resolved := by
  unfold resolveGeneration
  dsimp only
  cases Generation.resolve? (Generation.saltedHash (Generation.hashedText template.spec)) c.name existing with
  | none => simp
  | some r => simp

theorem resolveGeneration_adopts {template : PodTemplate} {sets : List StatefulSet} {name hash : String}
    (h : c.resolveGeneration template (existingOf sets) = .ok (.adopt name hash)) :
    ∃ set ∈ sets, set.name = some name ∧ set.hash = some hash := by
  obtain ⟨-, member⟩ := Generation.mem_of_adopt (resolveGeneration_eq_ok.mp h)
  obtain ⟨set, listed, shown⟩ := List.mem_filterMap.mp member
  obtain ⟨text, named, same⟩ := Option.map_eq_some_iff.mp shown
  obtain ⟨rfl, hashed⟩ : text = name ∧ set.hash = some hash := by simpa using same
  exact ⟨set, listed, named, hashed⟩

theorem resize_provides {ns name hash : String} {template : PodTemplate} {sets : List StatefulSet}
    {written : Option StatefulSet} {first : List Exchange}
    (resolved : c.resolveGeneration template (existingOf sets) = .ok (.adopt name hash))
    (distinct : ∀ a ∈ sets, ∀ b ∈ sets, a.name = b.name → a = b)
    (resized : (resize ns name c.spec.replicas sets).Ends first (.ok written)) (shows : ShowsSets first) :
    ∃ set ∈ (match written with | some set => putSet set sets | none => sets), set.Stands name c.spec.replicas := by
  rcases resize_ends resized with ⟨sized, rfl, ok⟩ | ⟨-, reply, rfl, ok⟩
  · cases ok
    obtain ⟨set, member, named, hashed⟩ := resolveGeneration_adopts resolved
    obtain ⟨found, first, sized⟩ := Option.bind_eq_some_iff.mp sized
    have named' : found.name = some name := by simpa using List.find?_some first
    cases distinct _ (List.mem_of_find?_eq_some first) _ member (named'.trans named.symm)
    exact ⟨set, member, named, sized, Option.isSome_iff_exists.mpr ⟨hash, hashed⟩⟩
  · cases reply with
    | error e => cases ok
    | ok set =>
        cases ok
        exact ⟨set, mem_putSet_self, shows.scaled _ _ _ _ List.mem_cons_self⟩

/-- The generation step collects sets and knows the generation of the desired template by name. That one is among
them, in the desired size. -/
theorem generationStep_provides (ends : (c.generationStep p).Ends log (.ok next)) :
    ∃ ns name sets pods, c.Resolves log ns name ∧
      next = { p with generations := Generation.collect sets pods, update := some name } ∧
      (ShowsSets log → ∃ set ∈ sets, set.Stands name c.spec.replicas) := by
  unfold generationStep at ends
  obtain ⟨ns, place, placed⟩ := ends_ofExcept_bind_ok ends
  obtain ⟨template, desired, wanted⟩ := ends_ofExcept_bind_ok placed
  obtain ⟨reply, rest, rfl, listed⟩ := ends_call_bind.mp wanted
  obtain ⟨sets, rfl, shown⟩ := ends_ofExcept_bind_ok listed
  obtain ⟨resolved, found, goes⟩ := ends_ofExcept_bind_ok shown
  have resolves : c.Resolves (⟨.listSets ns c.selector, .ok sets⟩ :: rest) ns resolved.name :=
    ⟨place, template, sets, resolved, desired, List.mem_cons_self, found, rfl⟩
  cases resolved with
  | adopt name hash =>
      obtain ⟨written, first, later, rfl, resized, follows⟩ := ends_bind_ok goes
      obtain ⟨pods, known⟩ := (collecting_ends follows).2 next rfl
      refine ⟨ns, name, _, pods, resolves, known, fun shows => ?_⟩
      refine resize_provides found (shows.distinct _ _ _ List.mem_cons_self) resized (shows.part ?_)
      intro x member
      exact List.mem_cons_of_mem _ (List.mem_append_left _ member)
  | create name hash =>
      obtain ⟨manifest, made, stamped⟩ := ends_ofExcept_bind_ok goes
      obtain ⟨set, first, later, rfl, created, follows⟩ := ends_bind_ok stamped
      obtain ⟨pods, known⟩ := (collecting_ends (ends_pure_bind.mp follows)).2 next rfl
      refine ⟨ns, name, _, pods, resolves, known, fun shows => ⟨set, mem_putSet_self, ?_⟩⟩
      obtain ⟨reply, told, rfl, -, good⟩ := createGeneration_ends created
      cases good set rfl
      have stands := shows.created ns manifest set (List.mem_cons_of_mem _ List.mem_cons_self)
      rwa [manifestOf_name made, manifestOf_replicas made] at stands

end Cluster

end BrokerFleet
