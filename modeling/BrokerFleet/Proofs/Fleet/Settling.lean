import BrokerFleet.Proofs.Fleet.Stored
import BrokerFleet.Proofs.Pass.Provision
import BrokerFleet.Proofs.Pass.Unhindered

/-!
One generation step settles the generation of the desired template. It writes that one StatefulSet and no other; and
whatever is edited of the cluster that its pod template does not come from, the next step finds the same generation
and writes at most its size.
-/

namespace BrokerFleet

open Kubernetes Attempt Generation Rehearsal

def Call.write? : Call → Option (String × Write)
  | .write ns w => some (ns, w)
  | _ => none

def writes (log : List Exchange) : List (String × Write) :=
  log.filterMap (·.call.write?)

namespace Cluster

/-- The cluster is edited, but in nothing that its pod template comes from. -/
structure EditedTo (c c' : Cluster) : Prop where
  name : c'.metadata.name = c.metadata.name
  generateName : c'.metadata.generateName = c.metadata.generateName
  ns : c'.metadata.ns? = c.metadata.ns?
  spec : ∃ replicas config edition updateStrategy,
    c'.spec = { c.spec with replicas, config, edition, updateStrategy }

/-- The generation of a template is the set of a key: that one has the desired size and the hash, it is what the
template is resolved to, and the other sets are as they were. -/
structure Settles (c : Cluster) (template : PodTemplate) (ns name : String) (s after : SetStore) : Prop where
  keyed : after.Keyed
  others : after.without (ns, name) = s.without (ns, name)
  stands : ∃ set ∈ after, set.key = (ns, name) ∧ set.shown.replicas = some c.spec.replicas ∧
    set.label? hashLabel = some (templateHash template.spec) ∧ set.isSelected c.selector = true
  adopted : c.resolveGeneration template (existingOf (after.listing ns c.selector)) =
    .ok (.adopt name (templateHash template.spec))

variable {c c' : Cluster} {p p' next : ClusterPass} {template : PodTemplate} {ns name hash : String}
  {s after : SetStore} {set : StoredSet} {log : List Exchange} {r : Except Failure ClusterPass}

/-! ### Edits -/

namespace EditedTo

theorem displayName (edited : c.EditedTo c') : c'.name = c.name := by
  unfold Cluster.name Meta.displayName
  rw [edited.name, edited.generateName]

theorem labels (edited : c.EditedTo c') : c'.labels = c.labels := by
  rw [Cluster.labels, Cluster.labels, edited.displayName]

theorem selector (edited : c.EditedTo c') : c'.selector = c.selector := by
  rw [Cluster.selector, Cluster.selector, edited.displayName]

theorem placed (edited : c.EditedTo c') : c'.placed = c.placed := by
  rw [Cluster.placed, Cluster.placed, Cluster.ns?, Cluster.ns?, edited.ns]

theorem podSpec (edited : c.EditedTo c') : c'.podSpec ns = c.podSpec ns := by
  obtain ⟨replicas, config, edition, updateStrategy, spec⟩ := edited.spec
  have env : c'.env ns = c.env ns := by
    rw [Cluster.env, Cluster.env, operatorEnv, operatorEnv, spec]
    simp only [headlessName, edited.displayName]
  have container : c'.container ns = c.container ns := by
    rw [Cluster.container, Cluster.container, env]
    simp only [statusProbe, port, spec]
  rw [Cluster.podSpec, Cluster.podSpec, container]
  simp only [configName, secretName, edited.displayName, spec]

theorem desiredTemplate (edited : c.EditedTo c') : c'.desiredTemplate = c.desiredTemplate := by
  unfold Cluster.desiredTemplate podTemplate?
  simp only [Cluster.ns?, edited.ns, edited.labels, edited.podSpec]

theorem resolveGeneration (edited : c.EditedTo c') : c'.resolveGeneration = c.resolveGeneration := by
  unfold Cluster.resolveGeneration
  rw [edited.displayName]

end EditedTo

/-! ### What one step leaves -/

theorem stored_of_adopt
    (resolved : c.resolveGeneration template (existingOf (s.listing ns c.selector)) = .ok (.adopt name hash)) :
    hash = templateHash template.spec ∧
      ∃ set ∈ s.selected ns c.selector, set.key = (ns, name) ∧ set.label? hashLabel = some hash := by
  obtain ⟨same, member⟩ := mem_of_adopt (resolveGeneration_eq_ok.mp resolved)
  rw [SetStore.existingOf_listing] at member
  obtain ⟨set, selected, shown⟩ := List.mem_map.mp member
  obtain ⟨-, placed, -⟩ := SetStore.mem_selected.mp selected
  obtain ⟨named, hashed⟩ : set.name = name ∧ set.shown.hash = some hash := by simpa [StoredSet.existing] using shown
  exact ⟨same, set, selected, Prod.ext placed named, set.hash_eq_label?.symm.trans hashed⟩

theorem settles_of_kept (keyed : s.Keyed)
    (resolved : c.resolveGeneration template (existingOf (s.listing ns c.selector)) = .ok (.adopt name hash))
    (sized : ((s.listing ns c.selector).find? (·.name == some name)).bind (·.replicas) = some c.spec.replicas) :
    c.Settles template ns name s s := by
  obtain ⟨rfl, set, selected, key, hashed⟩ := stored_of_adopt resolved
  obtain ⟨there, -, matching⟩ := SetStore.mem_selected.mp selected
  rw [SetStore.find?_listing keyed selected (congrArg Prod.snd key)] at sized
  exact ⟨keyed, rfl, ⟨set, there, key, sized, hashed, matching⟩, resolved⟩

theorem settles_of_scaled (keyed : s.Keyed)
    (resolved : c.resolveGeneration template (existingOf (s.listing ns c.selector)) = .ok (.adopt name hash))
    (scaled : s.Makes ns (.scaleGeneration name c.spec.replicas) set) (put : SetStore.Put set s after) :
    c.Settles template ns name s after := by
  obtain ⟨rfl, stored, selected, key, hashed⟩ := stored_of_adopt resolved
  obtain ⟨there, -, matching⟩ := SetStore.mem_selected.mp selected
  obtain ⟨old, member, same, resized⟩ := scaled.of_scale
  cases keyed.eq_of_key member there (same.trans key.symm)
  have others := put.without
  have listed := put.existing_selected keyed there resized ns c.selector
  rw [resized.key, key] at others
  refine ⟨put.keyed keyed, others, ⟨set, put.mem, resized.key.trans key, ?_, ?_, ?_⟩, ?_⟩
  · rw [resized.shown]
  · exact (resized.labels _).trans hashed
  · exact (resized.isSelected _).trans matching
  · rw [SetStore.existingOf_listing, listed, ← SetStore.existingOf_listing]
    exact resolved

theorem isSelected_of_sent {manifest : GenerationManifest} (made : c.manifestOf name hash = .ok manifest)
    (sent : set.IsSent ns manifest) : set.label? hashLabel = some hash ∧ set.isSelected c.selector = true := by
  obtain ⟨podSpec, rfl⟩ := manifestOf_eq made
  have labels : ∀ label ∈ c.labels, set.label? label.1 = some label.2 := fun label member =>
    sent.labels _ _ (generation_label member)
  have named : set.label? instanceLabel = some c.name := labels (instanceLabel, c.name) (by simp [Cluster.labels])
  refine ⟨sent.labels _ _ Labels.get?_set, ?_⟩
  rw [StoredSet.isSelected, isSelected_selector (set.plain _ _ named)]
  exact StoredSet.carries_iff.mpr labels

theorem settles_of_created (keyed : s.Keyed)
    (resolved : c.resolveGeneration template (existingOf (s.listing ns c.selector)) = .ok (.create name hash))
    {manifest : GenerationManifest} (made : c.manifestOf name hash = .ok manifest)
    (sent : s.Makes ns (.applyGeneration manifest) set) (put : SetStore.Put set s after) :
    c.Settles template ns name s after := by
  have asked : set.IsSent ns manifest := by
    refine sent.of_apply ?_
    obtain ⟨podSpec, rfl⟩ := manifestOf_eq made
    exact generation_labels_distinct
  obtain ⟨hashed, matching⟩ := isSelected_of_sent made asked
  obtain ⟨podSpec, rfl⟩ := manifestOf_eq made
  obtain ⟨rfl, unknown, -⟩ := fresh_of_create (resolveGeneration_eq_ok.mp resolved)
  obtain ⟨key, -, sized⟩ := asked
  obtain ⟨placed, named⟩ := Prod.ext_iff.mp key
  have others := put.without
  refine ⟨put.keyed keyed, key ▸ others, ⟨set, put.mem, key, sized, hashed, matching⟩, ?_⟩
  have shown := set.hash_eq_label?.trans hashed
  have found := SetStore.find?_existing_of_put put placed matching shown fun other listed same => by
    refine unknown ⟨other.existing, ?_, same⟩
    rw [SetStore.existingOf_listing]
    exact List.mem_map_of_mem listed
  rw [SetStore.existingOf_listing]
  refine resolveGeneration_eq_ok.mpr ((resolve?_of_find? found).trans ?_)
  cases named
  rfl

/-! ### One step and the next one -/

theorem writes_of_quiet (quiet : Quiet log) (within : ∀ x ∈ log, Step.vocabulary .generations x.call) :
    writes log = [] := by
  refine List.filterMap_eq_nil_iff.mpr fun x member => ?_
  have still := quiet x member
  have known := within x member
  unfold Call.write?
  split
  · next ns w same =>
    rw [same] at still known
    cases w <;> first | exact known.elim | exact absurd trivial still
  · rfl

theorem generationStep_settles (keyed : s.Keyed) (ends : (c.generationStep p).Ends log (.ok next))
    (along : s.Along log after) :
    ∃ ns name template, c.placed = .ok ns ∧ c.desiredTemplate = .ok template ∧ next.update = some name ∧
      c.Settles template ns name s after ∧
      (writes log = [] ∨ ∃ w, writes log = [(ns, w)] ∧ w.kind = .statefulSet ∧ w.name = name) := by
  have within := generationStep_asks.call_of_mem ends
  unfold generationStep at ends
  obtain ⟨ns, place, placed⟩ := ends_ofExcept_bind_ok ends
  obtain ⟨template, desired, wanted⟩ := ends_ofExcept_bind_ok placed
  obtain ⟨reply, rest, rfl, listed⟩ := ends_call_bind.mp wanted
  obtain ⟨sets, rfl, shown⟩ := ends_ofExcept_bind_ok listed
  obtain ⟨resolved, found, goes⟩ := ends_ofExcept_bind_ok shown
  obtain ⟨_, ⟨rfl, lists⟩, onward⟩ := SetStore.along_cons.mp along
  cases lists
  have within := fun x member => within x (List.mem_cons_of_mem _ member)
  cases resolved with
  | adopt name hash =>
      obtain ⟨written, first, later, rfl, resized, follows⟩ := ends_bind_ok goes
      obtain ⟨quiet, known⟩ := collecting_ends follows
      obtain ⟨pods, rfl⟩ := known next rfl
      refine ⟨ns, name, template, place, desired, rfl, ?_⟩
      have unwritten := writes_of_quiet quiet fun x member => within x (List.mem_append_right _ member)
      rcases resize_ends resized with ⟨sized, rfl, -⟩ | ⟨-, reply, rfl, ok⟩
      · obtain rfl := onward.of_quiet quiet
        exact ⟨settles_of_kept keyed found sized, .inl unwritten⟩
      · obtain ⟨_, scaled, rest⟩ := SetStore.along_cons.mp onward
        obtain rfl := rest.of_quiet quiet
        cases reply with
        | error e => cases ok
        | ok answer =>
            obtain ⟨set, scaled, put, -⟩ := scaled
            have settles := settles_of_scaled keyed found scaled put
            refine ⟨settles, .inr ⟨.scaleGeneration name c.spec.replicas, ?_, rfl, rfl⟩⟩
            exact congrArg (List.cons _) unwritten
  | create name hash =>
      obtain ⟨manifest, made, stamped⟩ := ends_ofExcept_bind_ok goes
      obtain ⟨answer, first, later, rfl, created, follows⟩ := ends_bind_ok stamped
      obtain ⟨quiet, known⟩ := collecting_ends (ends_pure_bind.mp follows)
      obtain ⟨pods, rfl⟩ := known next rfl
      obtain ⟨reply, told, rfl, still, good⟩ := createGeneration_ends created
      cases good answer rfl
      refine ⟨ns, name, template, place, desired, rfl, ?_⟩
      have unwritten := writes_of_quiet (quiet_append still quiet) fun x member =>
        within x (List.mem_cons_of_mem _ member)
      obtain ⟨_, ⟨set, sent, put, -⟩, rest⟩ := SetStore.along_cons.mp onward
      obtain rfl := rest.of_quiet (quiet_append still quiet)
      refine ⟨settles_of_created keyed found made sent put, .inr ⟨.applyGeneration manifest, ?_, rfl, ?_⟩⟩
      · exact congrArg (List.cons _) unwritten
      · exact manifestOf_name made

theorem collecting_fails {e : Failure} {f : List Pod → ClusterPass}
    (h : Ends (do let pods ← Pass.api (← Attempt.call (.listPods ns c.selector)); return f pods) log (.error e)) :
    ∃ cause, e = .access (.api cause) := by
  obtain ⟨reply, rest, rfl, listed⟩ := ends_call_bind.mp h
  rcases ends_ofExcept_bind.mp listed with ⟨cause, -, -, failed⟩ | ⟨pods, -, done⟩
  · exact ⟨cause, Except.error.inj failed⟩
  · cases (ends_pure.mp done).2

/-- Where the template is resolved to a set that is there, a step writes at most its size, and only if that is another
one. -/
theorem generationStep_keeps (place : c.placed = .ok ns) (desired : c.desiredTemplate = .ok template)
    (adopted : c.resolveGeneration template (existingOf (s.listing ns c.selector)) = .ok (.adopt name hash))
    (ends : (c.generationStep p).Ends log r) (along : s.Along log after) :
    (∀ next, r = .ok next → next.update = some name) ∧ (∀ e, r = .error e → ∃ cause, e = .access (.api cause)) ∧
      (writes log = [] ∨ writes log = [(ns, .scaleGeneration name c.spec.replicas)] ∧
        ((s.listing ns c.selector).find? (·.name == some name)).bind (·.replicas) ≠ some c.spec.replicas) := by
  have within := generationStep_asks.call_of_mem ends
  unfold generationStep at ends
  rw [place, desired] at ends
  obtain ⟨reply, rest, rfl, listed⟩ := ends_call_bind.mp ends
  rcases ends_ofExcept_bind.mp listed with ⟨e, -, rfl, rfl⟩ | ⟨sets, rfl, shown⟩
  · exact ⟨fun _ ok => (nomatch ok), fun _ same => ⟨_, (Except.error.inj same).symm⟩, .inl rfl⟩
  obtain ⟨_, ⟨rfl, lists⟩, -⟩ := SetStore.along_cons.mp along
  cases lists
  rw [adopted] at shown
  rcases ends_ofExcept_bind.mp shown with ⟨e, same, -⟩ | ⟨_, same, goes⟩
  · cases same
  cases same
  have within := fun x member => within x (List.mem_cons_of_mem _ member)
  rcases ends_bind.mp goes with ⟨e, failed, rfl⟩ | ⟨written, first, later, rfl, resized, follows⟩
  · rcases resize_ends failed with ⟨-, -, ok⟩ | ⟨other, reply, rfl, same⟩
    · cases ok
    · cases reply with
      | ok set => cases same
      | error cause =>
          cases same
          exact ⟨fun _ ok => (nomatch ok), fun _ same => ⟨cause, (Except.error.inj same).symm⟩, .inr ⟨rfl, other⟩⟩
  · obtain ⟨quiet, known⟩ := collecting_ends follows
    have unwritten := writes_of_quiet quiet fun x member => within x (List.mem_append_right _ member)
    refine ⟨fun next ok => ?_, fun e failed => collecting_fails (failed ▸ follows), ?_⟩
    · obtain ⟨pods, rfl⟩ := known next ok
      rfl
    · rcases resize_ends resized with ⟨-, rfl, -⟩ | ⟨other, reply, rfl, -⟩
      · exact .inl unwritten
      · exact .inr ⟨congrArg (List.cons _) unwritten, other⟩

theorem Settles.listed (settles : c.Settles template ns name s after) :
    ((after.listing ns c.selector).find? (·.name == some name)).bind (·.replicas) = some c.spec.replicas := by
  obtain ⟨-, set, selected, key, -⟩ := stored_of_adopt settles.adopted
  obtain ⟨other, there, same, sized, -, -⟩ := settles.stands
  cases settles.keyed.eq_of_key there (SetStore.mem_selected.mp selected).1 (same.trans key.symm)
  rw [SetStore.find?_listing settles.keyed selected (congrArg Prod.snd key)]
  exact sized

/-- A generation step writes one StatefulSet at most, the one that the desired template is resolved to, and leaves it
with the desired size, the hash of the template and the labels of the cluster. If then the cluster is edited in nothing
that its pod template comes from, the next step resolves to the same one, makes none, and writes its size only if another
one is desired. -/
theorem generation_settled_by_one_step (keyed : s.Keyed) (ends : (c.generationStep p).Ends log (.ok next))
    (along : s.Along log after) :
    ∃ ns name, c.placed = .ok ns ∧ next.update = some name ∧
      (writes log = [] ∨ ∃ w, writes log = [(ns, w)] ∧ w.kind = .statefulSet ∧ w.name = name) ∧
      after.without (ns, name) = s.without (ns, name) ∧
      (∃ template, c.desiredTemplate = .ok template ∧ ∃ set ∈ after, set.key = (ns, name) ∧
        set.shown.replicas = some c.spec.replicas ∧ set.label? hashLabel = some (templateHash template.spec) ∧
        (',' ∉ c.name.toList → ∀ label ∈ c.labels, set.label? label.1 = some label.2)) ∧
      ∀ (c' : Cluster) (p' : ClusterPass) (log' : List Exchange) (r : Except Failure ClusterPass) (final : SetStore),
        c.EditedTo c' → (c'.generationStep p').Ends log' r → after.Along log' final →
        (∀ next', r = .ok next' → next'.update = some name) ∧
        (∀ e, r = .error e → ∃ cause, e = .access (.api cause)) ∧
        (writes log' = [] ∨ writes log' = [(ns, .scaleGeneration name c'.spec.replicas)] ∧
          c'.spec.replicas ≠ c.spec.replicas) := by
  obtain ⟨ns, name, template, place, desired, named, settles, written⟩ := generationStep_settles keyed ends along
  refine ⟨ns, name, place, named, written, settles.others, ⟨template, desired, ?_⟩, ?_⟩
  · obtain ⟨set, there, key, sized, hashed, matching⟩ := settles.stands
    refine ⟨set, there, key, sized, hashed, fun plain => StoredSet.carries_iff.mp ?_⟩
    rwa [← isSelected_selector plain]
  · intro c' p' log' r final edited again onward
    have adopted := settles.adopted
    rw [← edited.resolveGeneration, ← edited.selector] at adopted
    obtain ⟨knows, fails, written⟩ := generationStep_keeps (edited.placed.trans place)
      (edited.desiredTemplate.trans desired) adopted again onward
    refine ⟨knows, fails, written.imp_right fun only => ⟨only.1, fun same => only.2 ?_⟩⟩
    rw [edited.selector, settles.listed, same]

end Cluster

def foreignSet : StoredSet where
  ns := "other"
  name := "broker"
  object := generationDocument "broker" "broker" "b" "1970-01-01T00:01:40Z"
  shown := ⟨some "broker", some "b", some 1, some ⟨100, 0⟩⟩
  reads := rfl
  named := rfl
  plain := generationDocument_plain (by decide)

def sampleName : String :=
  "broker" ++ "-" ++ sampleHash "broker:1"

def sampleManifest : GenerationManifest :=
  let c := sampleCluster "broker:1" .initial
  ⟨{ c.childMeta sampleName with labels := Labels.set hashLabel (sampleHash "broker:1") c.labels }, 1,
    c.headlessName, c.podSpec "default"⟩

def sampleDocument : Json :=
  Store.stamped ⟨100, 0⟩ ((Json.object []).merge (toJson sampleManifest))

theorem sampleDocument_reads : ofJson? sampleDocument =
    some (⟨some sampleName, some (sampleHash "broker:1"), some 1, some ⟨100, 0⟩⟩ : StatefulSet) := by
  have read : (ofJson? sampleDocument : Option StatefulSet).isSome = true := by decide +kernel
  have stamp : (Meta.ofResource? sampleDocument).map (·.created) = some (some ⟨100, 0⟩) := by decide +kernel
  obtain ⟨set, read⟩ := Option.isSome_iff_exists.mp read
  obtain ⟨named, hashed, sized, created⟩ := StatefulSet.ofJson?_parts read
  rw [read, Option.some.injEq]
  cases set
  simp only [StatefulSet.mk.injEq]
  exact ⟨named, hashed, sized, Option.some.inj (created.symm.trans stamp)⟩

theorem sampleDocument_labels :
    member? ["metadata", "labels"] sampleDocument = some (Json.texts sampleManifest.metadata.labels) := rfl

theorem sample_plain : ∀ label ∈ (sampleCluster "broker:1" .initial).labels, ',' ∉ label.2.toList := by
  decide

def sampleStored : StoredSet where
  ns := "default"
  name := sampleName
  object := sampleDocument
  shown := ⟨some sampleName, some (sampleHash "broker:1"), some 1, some ⟨100, 0⟩⟩
  reads := sampleDocument_reads
  named := rfl
  plain := by
    refine StoredSet.plain_of_labels sampleDocument_labels fun label member => ?_
    have among : label ∈ (sampleCluster "broker:1" .initial).labels ++ [(hashLabel, sampleHash "broker:1")] := member
    rcases List.mem_append.mp among with own | hashed
    · exact sample_plain label own
    · cases List.mem_singleton.mp hashed
      exact templateHash_plain _

def resizedSample : Cluster :=
  let c := sampleCluster "broker:1" .initial
  { c with metadata := { c.metadata with uid := some "1" }, spec := { c.spec with replicas := 3, config := some "" } }

def creatingSample : List Exchange :=
  let selector := (sampleCluster "broker:1" .initial).selector
  [⟨.listSets "default" selector, .ok []⟩, ⟨.write "default" (.applyGeneration sampleManifest), .ok sampleStored.shown⟩,
    ⟨.tell ⟨.normal, "GenerationCreated", "Created generation " ++ sampleName⟩, ()⟩,
    ⟨.listPods "default" selector, .ok []⟩]

def resizingSample : List Exchange :=
  let selector := resizedSample.selector
  [⟨.listSets "default" selector, .ok [sampleStored.shown]⟩,
    ⟨.write "default" (.scaleGeneration sampleName 3), .ok { sampleStored.shown with replicas := some 3 }⟩,
    ⟨.listPods "default" selector, .ok []⟩]

theorem sample_created : ∃ next,
    ((sampleCluster "broker:1" .initial).generationStep (.start .initial)).Ends creatingSample (.ok next) :=
  ⟨_, Cluster.generationStep_creates rfl sample_desired rfl rfl sampleStored.shown []⟩

theorem sample_stored : SetStore.Along [foreignSet] creatingSample [sampleStored, foreignSet] := by
  have free : ∀ other ∈ ([] ++ [foreignSet] : SetStore), other.key ≠ sampleStored.key := by
    intro other member
    cases List.mem_singleton.mp member
    simp [StoredSet.key, foreignSet, sampleStored]
  have unlisted : SetStore.listing [foreignSet] "default" (sampleCluster "broker:1" .initial).selector = [] := rfl
  have makes : SetStore.Makes [foreignSet] "default" (.applyGeneration sampleManifest) sampleStored :=
    .made rfl rfl rfl ⟨sampleDocument_reads, fun _ => rfl⟩
  exact .cons ⟨rfl, unlisted.symm⟩ (.cons ⟨sampleStored, makes, .added free, rfl⟩ (.cons rfl (.cons rfl (.nil _))))

theorem sample_resized : ∃ next, (resizedSample.generationStep (.start .initial)).Ends resizingSample (.ok next) := by
  have shown : Cluster.existingOf [sampleStored.shown] = [⟨sampleName, some (sampleHash "broker:1")⟩] := by
    rfl
  have resolved : resizedSample.resolveGeneration (sampleTemplate "broker:1" .initial)
      (Cluster.existingOf [sampleStored.shown]) = .ok (.adopt sampleName (sampleHash "broker:1")) := by
    rw [shown]
    exact Cluster.resolveGeneration_head rfl
  refine ⟨_, Cluster.generationStep_resizes rfl rfl resolved ?_ { sampleStored.shown with replicas := some 3 } []⟩
  simp [sampleStored, resizedSample]

theorem sample_restored : ∃ final, SetStore.Along [sampleStored, foreignSet] resizingSample final := by
  have keyed : SetStore.Keyed [sampleStored, foreignSet] := by
    simp [SetStore.Keyed, StoredSet.key, sampleStored, foreignSet]
  have listed : SetStore.listing [sampleStored, foreignSet] "default" resizedSample.selector = [sampleStored.shown] :=
    rfl
  have put : SetStore.Put (sampleStored.resized 3) ([] ++ sampleStored :: [foreignSet])
      ([] ++ sampleStored.resized 3 :: [foreignSet]) := .replaced StoredSet.resized_key.symm
  have makes : SetStore.Makes [sampleStored, foreignSet] "default" (.scaleGeneration sampleName 3)
      (sampleStored.resized 3) := SetStore.makes_resized keyed List.mem_cons_self 3
  have written : SetStore.Step [sampleStored, foreignSet] ⟨.write "default" (.scaleGeneration sampleName 3),
      .ok { sampleStored.shown with replicas := some 3 }⟩ [sampleStored.resized 3, foreignSet] :=
    ⟨sampleStored.resized 3, makes, put, rfl⟩
  exact ⟨_, .cons ⟨rfl, listed.symm⟩ (.cons written (.cons rfl (.nil _)))⟩

/-- A generation that was made is found again after an edit, and only its size is written. -/
theorem settled_generation_resized :
    ∃ (after final : SetStore) (log log' : List Exchange) (next next' : ClusterPass),
      SetStore.Keyed [foreignSet] ∧
      ((sampleCluster "broker:1" .initial).generationStep (.start .initial)).Ends log (.ok next) ∧
      SetStore.Along [foreignSet] log after ∧ (resizedSample.generationStep (.start .initial)).Ends log' (.ok next') ∧
      after.Along log' final ∧ next'.update = next.update ∧ foreignSet ∈ after ∧
      writes log' = [("default", .scaleGeneration sampleName 3)] := by
  have keyed : SetStore.Keyed [foreignSet] := List.nodup_singleton _
  obtain ⟨next, made⟩ := sample_created
  obtain ⟨next', resized⟩ := sample_resized
  obtain ⟨final, restored⟩ := sample_restored
  have edited : (sampleCluster "broker:1" .initial).EditedTo resizedSample :=
    ⟨rfl, rfl, rfl, 3, some "", .enterprise, ⟨0, default⟩, rfl⟩
  obtain ⟨ns, name, -, named, -, -, -, again⟩ :=
    Cluster.generation_settled_by_one_step keyed made sample_stored
  obtain ⟨knows, -, -⟩ := again _ _ _ _ final edited resized restored
  exact ⟨_, final, _, _, next, next', keyed, made, sample_stored, resized, restored, (knows _ rfl).trans named.symm,
    List.mem_cons_of_mem _ List.mem_cons_self, rfl⟩

end BrokerFleet
