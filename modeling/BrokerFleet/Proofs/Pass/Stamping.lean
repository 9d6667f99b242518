import BrokerFleet.Proofs.Pass.Course
import BrokerFleet.Proofs.Pass.Evacuation

/-!
What the generation step does: it lists the StatefulSets, resolves the desired template to the name of a
generation, and gives that one the desired size, as a new one or as one that is there. It writes nothing
else, and no other step lists the sets.
-/

namespace BrokerFleet

open Kubernetes Attempt

namespace Cluster

/-- The desired template belongs to the generation of a name, by a listing that was shown. -/
def Resolves (c : Cluster) (log : List Exchange) (ns name : String) : Prop :=
  c.placed = .ok ns ∧ ∃ template sets resolved, c.desiredTemplate = .ok template ∧
    ⟨.listSets ns c.selector, .ok sets⟩ ∈ log ∧
    c.resolveGeneration template (existingOf sets) = .ok resolved ∧ resolved.name = name

theorem Resolves.mono {c : Cluster} {log log' : List Exchange} {ns name : String} (resolves : c.Resolves log ns name)
    (sub : ∀ x ∈ log, x ∈ log') : c.Resolves log' ns name := by
  obtain ⟨place, template, sets, resolved, desired, listed, found, named⟩ := resolves
  exact ⟨place, template, sets, resolved, desired, sub _ listed, found, named⟩

/-- The exchanges of a generation step that came to know the update generation, after the listing of the
sets; and with what it ends. -/
inductive Stamps (c : Cluster) (p : ClusterPass) (ns name : String) (sets : List StatefulSet) :
    List Exchange → Except Failure ClusterPass → Prop where
  | kept {rest : List Exchange} {r : Except Failure ClusterPass} (quiet : Quiet rest)
      (known : ∀ next, r = .ok next →
        ∃ pods, next = { p with generations := Generation.collect sets pods, update := some name }) :
      Stamps c p ns name sets rest r
  | scaled (reply : Except ApiError StatefulSet) {rest : List Exchange} {r : Except Failure ClusterPass}
      (quiet : Quiet rest) (known : ∀ next, r = .ok next → ∃ set pods, reply = .ok set ∧ next =
        { p with generations := Generation.collect (putSet set sets) pods, update := some name }) :
      Stamps c p ns name sets (⟨.write ns (.scaleGeneration name c.spec.replicas), reply⟩ :: rest) r
  | created (manifest : GenerationManifest) (named : manifest.metadata.name = name)
      (reply : Except ApiError StatefulSet) {rest : List Exchange} {r : Except Failure ClusterPass}
      (quiet : Quiet rest) (known : ∀ next, r = .ok next → ∃ set pods, reply = .ok set ∧ next =
        { p with generations := Generation.collect (putSet set sets) pods, update := some name }) :
      Stamps c p ns name sets (⟨.write ns (.applyGeneration manifest), reply⟩ :: rest) r

variable {c : Cluster} {p : ClusterPass} {log : List Exchange} {r : Except Failure ClusterPass}

theorem manifestOf_eq {name hash : String} {manifest : GenerationManifest}
    (h : c.manifestOf name hash = .ok manifest) : ∃ podSpec, manifest =
      ⟨{ c.childMeta name with labels := Labels.set hashLabel hash c.labels }, c.spec.replicas, c.headlessName,
        podSpec⟩ := by
  unfold manifestOf generation? at h
  cases template : c.podTemplate? with
  | none =>
      rw [template] at h
      cases h
  | some template =>
      simp only [template, Option.map_some] at h
      cases h
      exact ⟨_, rfl⟩

theorem manifestOf_name {name hash : String} {manifest : GenerationManifest}
    (h : c.manifestOf name hash = .ok manifest) : manifest.metadata.name = name := by
  obtain ⟨_, rfl⟩ := manifestOf_eq h
  rfl

theorem collecting_ends {ns name : String} {sets : List StatefulSet}
    (h : Ends (do
      let pods ← Pass.api (← Attempt.call (.listPods ns c.selector))
      return { p with generations := Generation.collect sets pods, update := some name }) log r) :
    Quiet log ∧ ∀ next, r = .ok next →
      ∃ pods, next = { p with generations := Generation.collect sets pods, update := some name } := by
  obtain ⟨reply, rest, rfl, listed⟩ := ends_call_bind.mp h
  have quiet : Quiet [⟨.listPods ns c.selector, reply⟩] := quiet_cons (fun h => h) quiet_nil
  rcases ends_ofExcept_bind.mp listed with ⟨e, -, rfl, rfl⟩ | ⟨pods, -, done⟩
  · exact ⟨quiet, fun _ ok => nomatch ok⟩
  · obtain ⟨rfl, rfl⟩ := ends_pure.mp done
    refine ⟨quiet, fun next ok => ⟨pods, ?_⟩⟩
    cases ok
    rfl

theorem resize_ends {ns name : String} {desired : Int32} {sets : List StatefulSet}
    {r : Except Failure (Option StatefulSet)} (h : (resize ns name desired sets).Ends log r) :
    ((sets.find? (·.name == some name)).bind (·.replicas) = some desired ∧ log = [] ∧ r = .ok none) ∨
      ((sets.find? (·.name == some name)).bind (·.replicas) ≠ some desired ∧
        ∃ reply, log = [⟨.write ns (.scaleGeneration name desired), reply⟩] ∧
          r = (reply.map some).mapError fun e => .access (.api e)) := by
  unfold resize at h
  dsimp only at h
  split at h
  · next same =>
    obtain ⟨rfl, rfl⟩ := ends_pure.mp h
    exact .inl ⟨beq_iff_eq.mp same, rfl, rfl⟩
  · next differ =>
    refine .inr ⟨fun same => differ (beq_iff_eq.mpr same), ?_⟩
    rcases ends_bind.mp h with ⟨e, failed, rfl⟩ | ⟨set, first, rest, rfl, came, done⟩
    · obtain ⟨reply, more, rfl, answered⟩ := ends_call_bind.mp failed
      obtain ⟨rfl, same⟩ := ends_ofExcept.mp answered
      refine ⟨reply, rfl, ?_⟩
      cases reply with
      | ok set => cases same
      | error cause =>
          cases same
          rfl
    · obtain ⟨reply, rfl, good⟩ := Pass.write_ends came
      obtain ⟨rfl, rfl⟩ := ends_pure.mp done
      refine ⟨reply, rfl, ?_⟩
      rw [good set rfl]
      rfl

theorem createGeneration_ends {ns : String} {manifest : GenerationManifest}
    {r : Except Failure StatefulSet} (h : (createGeneration ns manifest).Ends log r) :
    ∃ reply told, log = ⟨.write ns (.applyGeneration manifest), reply⟩ :: told ∧ Quiet told ∧
      ∀ set, r = .ok set → reply = .ok set := by
  unfold createGeneration at h
  rcases ends_bind.mp h with ⟨e, failed, rfl⟩ | ⟨set, first, rest, rfl, came, follows⟩
  · obtain ⟨reply, rfl, -⟩ := Pass.write_ends failed
    exact ⟨reply, [], rfl, quiet_nil, fun _ ok => nomatch ok⟩
  · obtain ⟨reply, rfl, good⟩ := Pass.write_ends came
    obtain ⟨more, rfl, done⟩ := ends_tell_bind.mp follows
    obtain ⟨rfl, rfl⟩ := ends_pure.mp done
    refine ⟨reply, _, rfl, quiet_cons (fun h => h) quiet_nil, fun found ok => ?_⟩
    cases ok
    exact good set rfl

theorem generationStep_ends (h : (c.generationStep p).Ends log r) :
    (Quiet log ∧ ∃ e, r = .error e) ∨
      ∃ ns name sets rest, c.placed = .ok ns ∧ c.Resolves log ns name ∧
        log = ⟨.listSets ns c.selector, .ok sets⟩ :: rest ∧ c.Stamps p ns name sets rest r := by
  unfold generationStep at h
  rcases ends_ofExcept_bind.mp h with ⟨e, -, rfl, rfl⟩ | ⟨ns, place, placed⟩
  · exact .inl ⟨quiet_nil, _, rfl⟩
  rcases ends_ofExcept_bind.mp placed with ⟨e, -, rfl, rfl⟩ | ⟨template, desired, made⟩
  · exact .inl ⟨quiet_nil, _, rfl⟩
  obtain ⟨reply, rest, rfl, listed⟩ := ends_call_bind.mp made
  have quiet : Quiet [⟨.listSets ns c.selector, reply⟩] := quiet_cons (fun h => h) quiet_nil
  rcases ends_ofExcept_bind.mp listed with ⟨e, -, rfl, rfl⟩ | ⟨sets, rfl, shown⟩
  · exact .inl ⟨quiet, _, rfl⟩
  rcases ends_ofExcept_bind.mp shown with ⟨e, -, rfl, rfl⟩ | ⟨resolved, found, goes⟩
  · exact .inl ⟨quiet, _, rfl⟩
  have resolves : c.Resolves (⟨.listSets ns c.selector, .ok sets⟩ :: rest) ns resolved.name :=
    ⟨place, template, sets, resolved, desired, List.mem_cons_self, found, rfl⟩
  refine .inr ⟨ns, resolved.name, sets, rest, place, resolves, rfl, ?_⟩
  cases resolved with
  | adopt name hash =>
      rcases ends_bind.mp goes with ⟨e, failed, rfl⟩ | ⟨written, first, more, rfl, came, follows⟩
      · rcases resize_ends failed with ⟨-, rfl, ok⟩ | ⟨-, reply, rfl, -⟩
        · cases ok
        · exact .scaled reply quiet_nil fun _ ok => nomatch ok
      · obtain ⟨quiet, known⟩ := collecting_ends follows
        rcases resize_ends came with ⟨-, rfl, ok⟩ | ⟨-, reply, rfl, ok⟩
        · cases ok
          exact .kept quiet known
        · refine .scaled _ quiet fun next same => ?_
          obtain ⟨pods, knows⟩ := known next same
          cases reply with
          | error e => cases ok
          | ok set =>
              cases ok
              exact ⟨set, pods, rfl, knows⟩
  | create name hash =>
      rcases ends_ofExcept_bind.mp goes with ⟨e, -, rfl, rfl⟩ | ⟨manifest, made, stamped⟩
      · exact .kept quiet_nil fun _ ok => nomatch ok
      have named : manifest.metadata.name = name := manifestOf_name made
      rcases ends_bind.mp stamped with ⟨e, failed, rfl⟩ | ⟨set, first, more, rfl, came, follows⟩
      · obtain ⟨reply, told, rfl, quiet, -⟩ := createGeneration_ends failed
        exact .created manifest named reply quiet fun _ ok => nomatch ok
      · obtain ⟨reply, told, rfl, still, good⟩ := createGeneration_ends came
        obtain ⟨quiet, known⟩ := collecting_ends (ends_pure_bind.mp follows)
        refine .created manifest named reply (quiet_append still quiet) fun next ok => ?_
        obtain ⟨pods, knows⟩ := known next ok
        exact ⟨set, pods, good set rfl, knows⟩

/-! ### Listings -/

def ListsOnce (log : List Exchange) : Prop :=
  ∀ x ∈ log, ∀ y ∈ log, x.call.IsListing → y.call.IsListing → x = y

theorem listsOnce_of_unlisted (unlisted : ∀ x ∈ log, ¬ x.call.IsListing) : ListsOnce log :=
  fun x member _ _ listing _ => absurd listing (unlisted x member)

theorem ListsOnce.after {first : List Exchange} (once : ListsOnce log)
    (unlisted : ∀ x ∈ first, ¬ x.call.IsListing) : ListsOnce (first ++ log) := by
  intro x hx y hy listing listing'
  rcases List.mem_append.mp hx with early | late
  · exact absurd listing (unlisted x early)
  · rcases List.mem_append.mp hy with early' | late'
    · exact absurd listing' (unlisted y early')
    · exact once x late y late' listing listing'

theorem ListsOnce.cons {x : Exchange} (once : ListsOnce log) (unlisted : ¬ x.call.IsListing) :
    ListsOnce (x :: log) := by
  have alone : ∀ y ∈ [x], ¬ y.call.IsListing := by
    intro y member
    rwa [List.mem_singleton.mp member]
  exact once.after alone

theorem ListsOnce.before {rest : List Exchange} (once : ListsOnce log)
    (unlisted : ∀ x ∈ rest, ¬ x.call.IsListing) : ListsOnce (log ++ rest) := by
  intro x hx y hy listing listing'
  rcases List.mem_append.mp hx with early | late
  · rcases List.mem_append.mp hy with early' | late'
    · exact once x early y early' listing listing'
    · exact absurd listing' (unlisted y late')
  · exact absurd listing (unlisted x late)

theorem generationStep_listsOnce (ends : (c.generationStep p).Ends log r) : ListsOnce log := by
  rcases generationStep_lists_first ends with rfl | ⟨first, rest, rfl, unlisted⟩
  · exact listsOnce_of_unlisted fun _ member => nomatch member
  · have alone : ListsOnce [first] := by
      intro x hx y hy _ _
      rw [List.mem_singleton.mp hx, List.mem_singleton.mp hy]
    exact alone.before unlisted

theorem runSteps_listsOnce {steps : List Step} {pace : Pace} {result : ClusterPass × Option (Step × Failure)}
    (distinct : steps.Nodup) (run : (c.runSteps pace steps p).Yields log result) : ListsOnce log := by
  induction steps generalizing p log with
  | nil =>
      obtain ⟨rfl, -⟩ := runSteps_nil.mp run
      exact listsOnce_of_unlisted fun _ member => nomatch member
  | cons step rest ih =>
      obtain ⟨other, others⟩ := List.nodup_cons.mp distinct
      have once : ∀ {log : List Exchange} {r : Except Failure ClusterPass},
          (step.run c pace p).Ends log r → ListsOnce log := by
        intro log r ends
        by_cases stamping : step = .generations
        · subst stamping
          exact generationStep_listsOnce ends
        · exact listsOnce_of_unlisted (Step.run_unlisted stamping ends)
      rcases runSteps_cons.mp run with
        ⟨e, taken, -⟩ | ⟨next, taken, -, -⟩ | ⟨next, first, later, rfl, taken, -, follows⟩
      · exact once taken
      · exact once taken
      · by_cases stamping : step = .generations
        · subst stamping
          refine (once taken).before (runSteps_forall (fun later member p log r ends => ?_) follows)
          exact Step.run_unlisted (fun same => other (same ▸ member)) ends
        · exact (ih others follows).after (Step.run_unlisted stamping taken)

theorem Resolves.unique {ns name ns' name' : String} (once : ListsOnce log) (resolves : c.Resolves log ns name)
    (resolves' : c.Resolves log ns' name') : ns' = ns ∧ name' = name := by
  obtain ⟨place, template, sets, resolved, desired, listed, found, rfl⟩ := resolves
  obtain ⟨place', template', sets', resolved', desired', listed', found', rfl⟩ := resolves'
  cases place.symm.trans place'
  cases desired.symm.trans desired'
  cases once _ listed _ listed' trivial trivial
  cases found.symm.trans found'
  exact ⟨rfl, rfl⟩

end Cluster

end BrokerFleet
