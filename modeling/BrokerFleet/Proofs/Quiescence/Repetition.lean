import BrokerFleet.Proofs.Pass.Gating
import BrokerFleet.Proofs.Quiescence.Gates
import BrokerFleet.Proofs.Quiescence.Standing

/-!
Steps that are taken again. For each step of a pass there is what it leaves of the surroundings when it has come
through, and that in surroundings which still have that, a step that knows the same comes through again, knows the same
after it, and changes nothing.
-/

namespace BrokerFleet

open Kubernetes Attempt

def Step.kinds : Step → List ObjectKind
  | .initResources => [.secret, .configMap, .service]
  | .generations => [.statefulSet]
  | .nodes => []
  | .stateMachine => []
  | .evacuation => [.statefulSet]
  | .readinessGates => [.pod]
  | .listeners => [.service]

theorem Step.kind_of_write {step : Step} {ns : String} {write : Write} (within : step.vocabulary (.write ns write)) :
    write.kind ∈ step.kinds := by
  cases step <;> cases write <;> first | exact within.elim | simp [kinds, Write.kind]

namespace Surroundings

variable {w after : Surroundings} {log : List Exchange}

theorem Along.of_unwritten (along : w.Along log after) (unwritten : ∀ x ∈ log, ∀ ns write, x.call ≠ .write ns write) :
    after = w := by
  induction along with
  | nil w => rfl
  | @cons w between after x log first rest ih =>
      have still : between = w := by
        rcases first.cases with same | ⟨ns, write, reply, rfl, -⟩
        · exact same
        · exact absurd rfl (unwritten _ List.mem_cons_self ns write)
      rw [ih fun y member => unwritten y (List.mem_cons_of_mem _ member), still]

end Surroundings

section Steps

variable {c : Cluster} {pace : Pace} {p next : ClusterPass} {w after : Surroundings} {log : List Exchange}
  {ns name : String}

theorem Step.run_same {step : Step} {r : Except Failure ClusterPass} (ends : (step.run c pace p).Ends log r)
    (along : w.Along log after) {kind : ObjectKind} (other : kind ∉ step.kinds) : w.Same after kind := by
  refine along.same fun x member ns write same => ?_
  have within := step.run_asks.call_of_mem ends x member
  rw [same] at within
  exact fun same => other (same ▸ Step.kind_of_write within)

theorem Step.run_unchanged {step : Step} {r : Except Failure ClusterPass} (ends : (step.run c pace p).Ends log r)
    (along : w.Along log after) (none : step.kinds = []) : after = w := by
  refine along.of_unwritten fun x member ns write same => ?_
  have within := step.run_asks.call_of_mem ends x member
  rw [same] at within
  have written := Step.kind_of_write within
  rw [none] at written
  cases written

theorem Step.run_status {step : Step} (other : step ≠ .initResources) (status : Option ClusterStatus) :
    step.run { c with status } pace p = step.run c pace p := by
  cases step with
  | initResources => exact absurd rfl other
  | generations => rfl
  | nodes => rfl
  | stateMachine => rfl
  | evacuation => rfl
  | readinessGates => rfl
  | listeners => rfl

namespace Cluster

theorem runSteps_leadTo {step : Step} {rest : List Step} {result : ClusterPass × Option (Step × Failure)}
    (taken : (step.run c pace p).LeadsTo w (.ok next)) (going : next.halted = false)
    (follows : (c.runSteps pace rest next).LeadsTo w result) : (c.runSteps pace (step :: rest) p).LeadsTo w result := by
  refine Dialogue.leadsTo_bind taken ?_
  dsimp only
  rw [if_neg (by rw [going]; decide)]
  exact follows

/-! ### The objects that generations need -/

/-- The objects that generations need are there. -/
structure Provided (c : Cluster) (w : Surroundings) (ns : String) : Prop where
  secret : w.There .secret ns c.secretName
  config : w.There .configMap ns c.configName
  service : w.There .service ns c.headlessName

theorem Provided.later (provided : c.Provided w ns) (along : w.Along log after) : c.Provided after ns :=
  ⟨along.there provided.secret, along.there provided.config, along.there provided.service⟩

theorem bootstrapStep_provides (place : c.placed = .ok ns) (waits : p.initReady = false)
    (ends : (c.bootstrapStep pace p).Ends log (.ok next)) (going : next.halted = false) (along : w.Along log after) :
    p.status.currentState ≠ .empty ∧ next = { p with initReady := true } ∧ c.Provided after ns := by
  obtain ⟨left, ns', place', secret, config, service⟩ := bootstrapStep_finds waits ends going
  cases place.symm.trans place'
  refine ⟨left, ?_, along.found secret, along.found config, along.found service⟩
  rcases (bootstrapStep_gives log next ends).2 with same | ⟨halted, -⟩
  · exact same
  · rw [going] at halted
    cases halted

theorem isThere_leadsTo {kind : ObjectKind} (there : w.There kind ns name) :
    (Pass.isThere kind ns name).LeadsTo w (.ok true) :=
  leadsTo_call_bind (fun disturbs => disturbs) (Surroundings.answers_find there) leadsTo_pure

theorem bootstrapStep_leadsTo (left : p.status.currentState ≠ .empty) (place : c.placed = .ok ns)
    (provided : c.Provided w ns) : (c.bootstrapStep pace p).LeadsTo w (.ok { p with initReady := true }) := by
  have ready : (c.resourcesReady ns).LeadsTo w (.ok true) := by
    unfold resourcesReady
    refine leadsTo_bind (isThere_leadsTo provided.secret) ?_
    refine leadsTo_bind (isThere_leadsTo provided.config) ?_
    exact isThere_leadsTo provided.service
  have kept : (c.ensureSecret ns).LeadsTo w (.ok ()) := by
    unfold ensureSecret
    exact leadsTo_bind (isThere_leadsTo provided.secret) leadsTo_pure
  have ensured : c.ensureResources.LeadsTo w (.ok true) := by
    unfold ensureResources
    refine leadsTo_ofExcept_bind place (leadsTo_bind kept ?_)
    refine leadsTo_bind (leadsTo_call_bind ?_ (Surroundings.answers_applyConfig provided.config) leadsTo_pure) ?_
    · simp [Call.Disturbs, Write.kind]
    refine leadsTo_bind (leadsTo_call_bind ?_ (Surroundings.answers_applyService provided.service) leadsTo_pure) ready
    simp [Call.Disturbs, Write.kind]
  unfold bootstrapStep
  dsimp only
  rw [if_neg left]
  exact leadsTo_bind ensured leadsTo_pure

/-! ### Generations -/

theorem listPods_ends {sets : List StatefulSet} (ends : Ends (do
      let pods ← Pass.api (← Attempt.call (.listPods ns c.selector))
      return { p with generations := Generation.collect sets pods, update := some name }) log (.ok next))
    (along : w.Along log after) : after = w ∧
      next = { p with generations := Generation.collect sets (w.podListing ns c.selector), update := some name } := by
  obtain ⟨reply, rest, rfl, listed⟩ := ends_call_bind.mp ends
  obtain ⟨pods, shown, done⟩ := ends_ofExcept_bind_ok listed
  obtain ⟨rfl, same⟩ := ends_pure.mp done
  obtain ⟨between, step, last⟩ := Surroundings.along_cons.mp along
  obtain ⟨answered, rfl⟩ := (Surroundings.answers_listPods reply between).mp step
  obtain rfl := Surroundings.along_nil.mp last
  cases answered.symm.trans shown
  cases same
  exact ⟨rfl, rfl⟩

theorem generationStep_collected (keyed : w.sets.Keyed) (ends : (Step.generations.run c pace p).Ends log (.ok next))
    (along : w.Along log after) : ∃ ns name template sets, c.placed = .ok ns ∧ c.desiredTemplate = .ok template ∧
      c.Settles template ns name w.sets after.sets ∧
      SameParts (·.name == some name) sets (after.sets.listing ns c.selector) ∧
      next = { p with
        generations := Generation.collect sets (after.podListing ns c.selector), update := some name } := by
  obtain ⟨ns, name, template, place, desired, named, settles, -⟩ := generationStep_settles keyed ends along.sets
  refine ⟨ns, name, template, ?_⟩
  have pods : w.Same after .pod := Step.run_same ends along (by decide)
  obtain ⟨-, put, selected, key, -⟩ := stored_of_adopt settles.adopted
  have placed : ∀ {set : StoredSet}, SetStore.Put set w.sets after.sets → set.key = (ns, name) →
      SameParts (·.name == some name) (putSet set.shown (w.sets.listing ns c.selector))
        (after.sets.listing ns c.selector) := by
    intro set putting same
    have here : set ∈ after.sets.selected ns c.selector := by
      rwa [settles.keyed.eq_of_key putting.mem (SetStore.mem_selected.mp selected).1 (same.trans key.symm)]
    cases congrArg Prod.snd same
    exact putting.sameParts keyed here
  unfold Step.run generationStep at ends
  dsimp only at ends
  rw [place, desired] at ends
  obtain ⟨reply, rest, rfl, listed⟩ := ends_call_bind.mp ends
  obtain ⟨between, step, later⟩ := Surroundings.along_cons.mp along
  obtain ⟨rfl, rfl⟩ := (Surroundings.answers_listSets reply between).mp step
  obtain ⟨_, same, shown⟩ := ends_ofExcept_bind_ok listed
  cases same
  obtain ⟨resolved, found, goes⟩ := ends_ofExcept_bind_ok shown
  cases resolved with
  | adopt other hash =>
      obtain ⟨written, first, collecting, rfl, resized, follows⟩ := ends_bind_ok goes
      obtain ⟨middle, before, onward⟩ := Surroundings.along_append.mp later
      obtain ⟨rfl, known⟩ := listPods_ends follows onward
      obtain rfl : other = name := Option.some.inj ((congrArg ClusterPass.update known).symm.trans named)
      rcases resize_ends resized with ⟨-, rfl, ok⟩ | ⟨-, reply, rfl, ok⟩
      · cases ok
        obtain rfl := Surroundings.along_nil.mp before
        exact ⟨_, place, desired, settles, ⟨rfl, rfl⟩, known⟩
      · obtain ⟨_, scaled, nothing⟩ := Surroundings.along_cons.mp before
        obtain rfl := Surroundings.along_nil.mp nothing
        rcases scaled with ⟨set, sets, makes, putting, rfl, rfl⟩ | ⟨-, rfl, -⟩
        · cases ok
          exact ⟨_, place, desired, settles, placed putting makes.key_eq, known⟩
        · cases ok
  | create other hash =>
      obtain ⟨manifest, made, stamped⟩ := ends_ofExcept_bind_ok goes
      obtain ⟨answer, first, collecting, rfl, created, follows⟩ := ends_bind_ok stamped
      obtain ⟨middle, before, onward⟩ := Surroundings.along_append.mp later
      obtain ⟨rfl, known⟩ := listPods_ends (ends_pure_bind.mp follows) onward
      obtain rfl : other = name := Option.some.inj ((congrArg ClusterPass.update known).symm.trans named)
      obtain ⟨reply, told, rfl, quiet, good⟩ := createGeneration_ends created
      cases good answer rfl
      obtain ⟨_, ⟨set, sets, makes, putting, same, rfl⟩, telling⟩ := Surroundings.along_cons.mp before
      cases same
      have unmoved : after.sets = sets := telling.sets.of_quiet quiet
      rw [← unmoved] at putting
      have key : set.key = (ns, other) := makes.key_eq.trans (congrArg (Prod.mk ns) (manifestOf_name made))
      exact ⟨_, place, desired, settles, placed putting key, known⟩

theorem generationStep_leadsTo (place : c.placed = .ok ns) {template : PodTemplate} {s : SetStore}
    (desired : c.desiredTemplate = .ok template) (settles : c.Settles template ns name s w.sets) :
    (c.generationStep p).LeadsTo w (.ok { p with
      generations := Generation.collect (w.sets.listing ns c.selector) (w.podListing ns c.selector),
      update := some name }) := by
  have sized : (((w.sets.listing ns c.selector).find? (·.name == some name)).bind (·.replicas) ==
      some c.spec.replicas) = true := beq_iff_eq.mpr settles.listed
  unfold generationStep
  rw [place, desired]
  refine leadsTo_call_bind (fun disturbs => disturbs) Surroundings.answers_listSets ?_
  refine leadsTo_ofExcept_bind rfl (leadsTo_ofExcept_bind settles.adopted ?_)
  dsimp only
  have kept : (resize ns name c.spec.replicas (w.sets.listing ns c.selector)).LeadsTo w (.ok none) := by
    unfold resize
    dsimp only
    rw [if_pos sized]
    exact leadsTo_pure
  refine leadsTo_bind kept (leadsTo_call_bind (fun disturbs => disturbs) Surroundings.answers_listPods ?_)
  exact leadsTo_pure

/-! ### Nodes and state -/

theorem signIn_questions : c.signIn.Asks Call.IsQuestion :=
  signIn_asks fun _ _ => trivial

theorem nodeStep_again (ends : (c.nodeStep pace p).Ends log (.ok next)) (along : w.Along log after) :
    after = w ∧ ∃ nodes link requeue, next = { p with status := { p.status with nodes }, link, requeue } ∧
      ∀ {w' : Surroundings} {p' : ClusterPass}, w'.AnswersAs w → p'.link = p.link → p'.requeue = p.requeue →
        (Generation.chooseReplica? p'.generations p'.update).map (·.name) =
          (Generation.chooseReplica? p.generations p.update).map (·.name) →
        (c.nodeStep pace p').LeadsTo w' (.ok { p' with status := { p'.status with nodes }, link, requeue }) := by
  unfold nodeStep at ends
  cases chosen : Generation.chooseReplica? p.generations p.update with
  | none =>
      rw [chosen] at ends
      obtain ⟨rfl, same⟩ := ends_pure.mp ends
      cases same
      refine ⟨Surroundings.along_nil.mp along, [], p.link, _, rfl, fun {w' p'} _ linked asked agrees => ?_⟩
      rw [Option.map_none, Option.map_eq_none_iff] at agrees
      unfold nodeStep
      rw [agrees, ← linked, ← asked]
      exact leadsTo_pure
  | some replica =>
      rw [chosen] at ends
      obtain ⟨client, signing, rest, rfl, signed, follows⟩ := ends_bind_ok ends
      obtain ⟨endpoint, found, asks⟩ := ends_ofExcept_bind_ok follows
      obtain ⟨nodes, asking, nothing, rfl, answered, done⟩ := ends_bind_ok asks
      obtain ⟨rfl, same⟩ := ends_pure.mp done
      cases same
      obtain ⟨between, before, later⟩ := Surroundings.along_append.mp along
      rw [List.append_nil] at later
      obtain ⟨rfl, signsAgain⟩ := signed.leadsTo (asks_mapFailure signIn_questions) before
      obtain ⟨rfl, asksAgain⟩ := answered.leadsTo (asks_mapFailure (ManagementClient.nodes_asks trivial)) later
      refine ⟨rfl, nodes, _, p.requeue, rfl, fun {w' p'} alike _ asked agrees => ?_⟩
      rw [Option.map_some, Option.map_eq_some_iff] at agrees
      obtain ⟨replica', chosen', named⟩ := agrees
      unfold nodeStep
      rw [chosen', ← asked]
      refine leadsTo_bind (signsAgain alike) (leadsTo_ofExcept_bind (named ▸ found) ?_)
      exact leadsTo_bind (asksAgain alike) leadsTo_pure

theorem stateStep_continues : (c.stateStep pace p).Gives fun next => next.halted = false → ∃ now,
    next = { p with
      status := (p.status.advance (c.observe p.initReady p.status.nodes p.generations p.update) now).1 } := by
  unfold stateStep
  refine gives_after fun now => ?_
  generalize c.observe p.initReady p.status.nodes p.generations p.update = seen
  dsimp only
  split
  · refine gives_bind (gives_pure rfl) ?_
    intro next same
    subst same
    split
    · exact gives_after fun _ => gives_pure fun _ => ⟨now, rfl⟩
    · exact gives_pure fun _ => ⟨now, rfl⟩
  · refine gives_bind (gives_pure rfl) ?_
    intro next same
    subst same
    split
    · exact gives_after fun _ => gives_pure nofun
    · exact gives_pure nofun
  · refine gives_after fun _ => gives_bind (gives_pure rfl) ?_
    intro next same
    subst same
    split
    · exact gives_after fun _ => gives_pure nofun
    · exact gives_pure nofun

theorem stateStep_leadsTo (stands : ∀ now, p.status.advance
    (c.observe p.initReady p.status.nodes p.generations p.update) now = (p.status, .continue)) :
    (c.stateStep pace p).LeadsTo w (.ok p) := by
  unfold stateStep
  refine leadsTo_now_bind fun now => ?_
  dsimp only
  rw [stands now]
  dsimp only
  refine leadsTo_bind leadsTo_pure ?_
  cases p.status.blueGreenUpdate <;> exact leadsTo_pure

/-! ### Evacuation, gates and listeners -/

theorem evacuationStep_idle (idle : p.status.blueGreenUpdate = none) : c.evacuationStep pace p = pure p := by
  unfold evacuationStep
  rw [idle]

theorem evacuationStep_leadsTo (idle : p.status.blueGreenUpdate = none) :
    (c.evacuationStep pace p).LeadsTo w (.ok p) := by
  rw [evacuationStep_idle idle]
  exact leadsTo_pure

theorem gateStep_again (place : c.placed = .ok ns) {sets : List StatefulSet}
    (collected : p.generations = Generation.collect sets (w.podListing ns c.selector))
    (distinct : ((w.podListing ns c.selector).map (·.name)).Nodup) (ends : (c.gateStep p).Ends log (.ok next))
    (along : w.Along log after) : after.AnswersAs w ∧
      (after.podListing ns c.selector).map Pod.ungated = (w.podListing ns c.selector).map Pod.ungated ∧
      ∀ {w' : Surroundings} {p' : ClusterPass} {sets' : List StatefulSet} {name : String}, w'.AnswersAs after →
        w'.pods = after.pods → p'.generations = Generation.collect sets' (w'.podListing ns c.selector) →
        Generation.Resembles name p.generations p'.generations → p'.link = p.link →
        p'.status.currentGeneration = p.status.currentGeneration → (c.gateStep p').LeadsTo w' (.ok p') := by
  unfold gateStep at ends
  obtain ⟨_, place', gates⟩ := ends_ofExcept_bind_ok ends
  cases place.symm.trans place'
  obtain ⟨_, first, nothing, rfl, gated, done⟩ := ends_bind_ok gates
  obtain ⟨rfl, -⟩ := ends_pure.mp done
  rw [List.append_nil] at along
  have course : c.Gated ns c.selector p.link _ _ w after := gates_end gated along
  have pod : ∀ r ∈ p.generations.flatMap (·.pods), ∃ pod ∈ w.podListing ns c.selector, r = .ofPod pod := by
    intro r member
    rw [collected] at member
    exact Generation.mem_pods_collect member
  have samePod : ∀ {a b : Pod}, a ∈ w.podListing ns c.selector → b ∈ w.podListing ns c.selector →
      a.name = b.name → a = b :=
    fun ha hb same => List.inj_on_of_nodup_map distinct ha hb same
  have shows := course.shows
    (fun r hr r' hr' named => by
      obtain ⟨a, ha, rfl⟩ := pod r hr
      obtain ⟨b, hb, rfl⟩ := pod r' hr'
      rw [samePod ha hb named])
    (fun r hr isOpen shown _ b hb named => by
      obtain ⟨a, ha, rfl⟩ := pod r hr
      rw [samePod hb ha named]
      exact shown)
  refine ⟨course.alike, course.pods, fun {w' p' sets' name} alike samePods collected' resembles linked served => ?_⟩
  unfold gateStep
  refine leadsTo_ofExcept_bind place (leadsTo_bind (gates_leadTo fun r member => ?_) leadsTo_pure)
  obtain ⟨other, seen, named, hashed⟩ := resembles.replica member
  obtain ⟨isOpen, opens⟩ := course.opens other seen
  have aims : c.Opens w' p'.link (p'.status.currentGeneration.map (·.hash)) r isOpen := by
    rw [linked, served]
    exact (opens.congr named hashed).again (alike.trans course.alike)
  refine ⟨isOpen, aims, ?_⟩
  rw [collected'] at member
  obtain ⟨a, there, rfl⟩ := Generation.mem_pods_collect member
  rw [Surroundings.podListing_congr samePods] at there
  exact shows other seen isOpen opens a there named.symm

theorem listenerStep_again (place : c.placed = .ok ns) (ends : (c.listenerStep p).Ends log (.ok next))
    (along : w.Along log after) {w' : Surroundings} {p' : ClusterPass} (alike : w'.AnswersAs w)
    (kept : ∀ name, after.There .service ns name → w'.There .service ns name) (linked : p'.link = p.link) :
    (c.listenerStep p').LeadsTo w' (.ok p') := by
  unfold listenerStep at ends ⊢
  rw [linked]
  cases link : p.link with
  | none => exact leadsTo_pure
  | some link =>
      rw [link] at ends
      obtain ⟨listeners, asking, rest, rfl, answered, follows⟩ := ends_bind_ok ends
      obtain ⟨between, before, later⟩ := Surroundings.along_append.mp along
      obtain ⟨rfl, again⟩ := answered.leadsTo (asks_mapFailure (ManagementClient.listeners_asks trivial)) before
      refine leadsTo_bind (again alike) ?_
      dsimp only at follows ⊢
      split at follows
      · next none =>
        rw [if_pos none]
        exact leadsTo_pure
      · next some =>
        rw [if_neg some]
        obtain ⟨_, place', applies⟩ := ends_ofExcept_bind_ok follows
        cases place.symm.trans place'
        obtain ⟨_, writing, nothing, rfl, wrote, done⟩ := ends_bind_ok applies
        obtain ⟨rfl, -⟩ := ends_pure.mp done
        obtain ⟨reply, rfl, -⟩ := Pass.write_ends wrote
        obtain ⟨_, ⟨-, rfl⟩, last⟩ := Surroundings.along_cons.mp later
        obtain rfl := Surroundings.along_nil.mp last
        have there : w'.There .service ns (c.listenersService (Listener.ports listeners)).metadata.name :=
          kept _ (Set.mem_insert _ _)
        have written : (Pass.write ns (.applyService (c.listenersService (Listener.ports listeners)))).LeadsTo w'
            (.ok ()) := by
          refine leadsTo_call_bind ?_ (Surroundings.answers_applyService there) leadsTo_pure
          simp [Call.Disturbs, Write.kind]
        exact leadsTo_ofExcept_bind place (leadsTo_bind written leadsTo_pure)

end Cluster

end Steps

end BrokerFleet
