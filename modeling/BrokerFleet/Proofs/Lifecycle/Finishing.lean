import BrokerFleet.Proofs.Evacuation.Aim
import BrokerFleet.Proofs.Generations.Selection
import BrokerFleet.Proofs.Lifecycle.Episode
import BrokerFleet.Proofs.Pass.Provision
import BrokerFleet.Proofs.Readiness

/-!
When an update is reported as finished. A pass reports that once it finds no more than one generation live,
whichever that is. It is the update generation as long as one replica at least is desired, for the generation
step has given that one the desired size by then; a cluster that is to have no replicas leaves the origin live.
-/

namespace BrokerFleet

open Kubernetes Attempt

namespace ClusterStatus

def SaysFinished (s : ClusterStatus) : Prop :=
  s.blueGreenUpdate = none ∧ ∃ c ∈ s.conditions,
    c.type = Condition.blueGreenUpdating ∧ c.status = .false ∧ c.reason = "Completed"

variable {s : ClusterStatus} {o : Observation} {now : Instant}

theorem finishUpdate_saysFinished (known : s.blueGreenUpdate.isSome = true) :
    (s.finishUpdate now).SaysFinished := by
  unfold finishUpdate
  rw [known, Bool.true_or, if_pos rfl]
  obtain ⟨a, member, type, agrees⟩ := Conditions.exists_mem_set s.conditions
    (.new Condition.blueGreenUpdating false "Completed" "") now
  simp only [Condition.saysSame, Bool.and_eq_true, beq_iff_eq] at agrees
  exact ⟨rfl, a, member, type, agrees.1.1, agrees.1.2⟩

theorem refuseUpdate_not_saysFinished (distinct : s.conditions.Distinct) :
    ¬ (s.refuseUpdate o now).SaysFinished := by
  intro h
  rcases h with ⟨-, a, member, type, -, reason⟩
  have agrees := Conditions.saysSame_of_mem_set distinct member type
  simp only [Condition.saysSame, Bool.and_eq_true, beq_iff_eq] at agrees
  exact absurd (reason.symm.trans agrees.1.2) (show "Completed" ≠ "EvacuationUnsupported" by decide)

theorem advance_finishes (distinct : s.conditions.Distinct) (known : s.blueGreenUpdate.isSome = true)
    (finished : (s.advance o now).1.SaysFinished) : o.liveGenerations ≤ 1 := by
  rcases advance_cases s o now with ⟨-, h⟩ | ⟨-, single, -⟩ | ⟨-, -, -, h⟩ | ⟨-, -, -, h⟩
  · rw [h] at finished
    have ended : s.blueGreenUpdate = none := finished.1
    rw [ended] at known
    cases known
  · exact single
  · rw [h] at finished
    have ended : (s.recorded o now).chooseUpdate o now = none := finished.1
    obtain ⟨u, update⟩ := Option.isSome_iff_exists.mp known
    unfold chooseUpdate at ended
    split at ended
    · split at ended
      · exact absurd (ended.symm.trans update) (by simp)
      · cases ended
    · exact absurd (ended.symm.trans update) (by simp)
  · rw [h] at finished
    exact absurd finished (refuseUpdate_not_saysFinished (recorded_distinct distinct))

theorem advance_of_single (left : s.currentState ≠ .empty) (ready : o.initReady = true)
    (single : o.liveGenerations ≤ 1) :
    s.advance o now = ((s.recorded o now).finishUpdate now, .continue) := by
  have next : s.currentState.next o = .running := by
    unfold ClusterState.next
    rw [if_neg left, ready, if_neg (by decide), if_neg (by omega)]
  rcases advance_cases s o now with ⟨h, -⟩ | ⟨-, -, h⟩ | ⟨h, -, -, -⟩ | ⟨-, several, -, -⟩
  · cases next.symm.trans h
  · exact h
  · cases next.symm.trans h
  · omega

end ClusterStatus

namespace Step

variable {step : Step} {c : Cluster} {pace : Pace} {p : ClusterPass}

theorem run_idle (idle : p.status.blueGreenUpdate = none) (later : step ∈ [.evacuation, .readinessGates, .listeners]) :
    (step.run c pace p).Gives fun next => next = p := by
  intro log next ends
  simp only [List.mem_cons, List.not_mem_nil, or_false] at later
  rcases later with rfl | rfl | rfl
  · unfold run Cluster.evacuationStep at ends
    dsimp only at ends
    rw [idle] at ends
    exact Except.ok.inj (ends_pure.mp ends).2
  · exact Cluster.gateStep_gives log next ends
  · exact Cluster.listenerStep_gives log next ends

end Step

namespace Cluster

variable {c : Cluster} {pace : Pace} {p q : ClusterPass} {s : ClusterStatus} {log : List Exchange}
  {failure : Option (Step × Failure)} {now : Instant}

theorem runSteps_keeps_update {steps : List Step} (other : .stateMachine ∉ steps)
    (run : (c.runSteps pace steps p).Yields log (q, failure)) :
    q.status.blueGreenUpdate.isSome = p.status.blueGreenUpdate.isSome := by
  rw [← ClusterStatus.episode_isSome, ← ClusterStatus.episode_isSome, runSteps_keeps_episode other run]

theorem runSteps_idle {steps : List Step} (idle : p.status.blueGreenUpdate = none)
    (later : steps ⊆ [.evacuation, .readinessGates, .listeners])
    (run : (c.runSteps pace steps p).Yields log (q, failure)) : q = p :=
  runSteps_still (fun _ member => Step.run_idle idle (later member)) run

theorem settled_saysFinished : (c.settled q failure now).SaysFinished ↔ q.status.SaysFinished := by
  have others : ∀ a : Condition, a.type = Condition.blueGreenUpdating →
      (a ∈ (c.settled q failure now).conditions ↔ a ∈ q.status.conditions) := by
    intro a type
    refine Conditions.mem_set_other ?_
    rw [type, ClusterStatus.reconciledCondition_type]
    decide
  constructor
  · intro h
    rcases h with ⟨ended, a, member, type, agrees⟩
    exact ⟨ended, a, (others a type).mp member, type, agrees⟩
  · intro h
    rcases h with ⟨ended, a, member, type, agrees⟩
    exact ⟨ended, a, (others a type).mpr member, type, agrees⟩

theorem stateStep_finishes (distinct : p.status.conditions.Distinct)
    (known : p.status.blueGreenUpdate.isSome = true) : (c.stateStep pace p).Gives fun next =>
      next.status.SaysFinished →
        (Generation.live p.generations).length ≤ 1 ∧ next.generations = p.generations := by
  intro log next ends finished
  obtain ⟨now, status, generations, -⟩ := stateStep_gives _ _ ends
  rw [status] at finished
  exact ⟨ClusterStatus.advance_finishes distinct known finished, generations⟩

theorem runSteps_finishes (distinct : s.conditions.Distinct) (updating : s.blueGreenUpdate.isSome = true)
    (run : (c.runSteps pace Step.all (.start s)).Yields log (q, failure)) (finished : q.status.SaysFinished) :
    (Generation.live q.generations).length ≤ 1 ∧ ∃ booted stamped part, part ⊆ log ∧
      (c.generationStep booted).Ends part (.ok stamped) ∧ q.generations = stamped.generations := by
  have goes : ∀ {p : ClusterPass}, p.status.blueGreenUpdate.isSome = true → ¬ p.status.SaysFinished := by
    intro p known finished
    rw [finished.1] at known
    cases known
  have split : Step.all = [.initResources, .generations, .nodes] ++
    [.stateMachine, .evacuation, .readinessGates, .listeners] := rfl
  rw [split] at run
  rcases runSteps_append rfl run with ⟨stops, -⟩ | ⟨asked, before, after, rfl, arrives, follows⟩
  · refine absurd finished (goes ?_)
    rw [runSteps_keeps_update (by decide) stops]
    exact updating
  · have known : asked.status.blueGreenUpdate.isSome = true := by
      rw [runSteps_keeps_update (by decide) arrives.1]
      exact updating
    obtain ⟨booted, first, later, rfl, taken, going, afterBoot⟩ := arrives.uncons
    obtain ⟨stamped, part, more, rfl, stamps, -, afterStamping⟩ := afterBoot.uncons
    obtain ⟨_, _, _, -, asks, -, arrived⟩ := afterStamping.uncons
    cases (runSteps_nil.mp arrived.1).2
    rcases (bootstrapStep_gives _ _ taken).2 with rfl | ⟨halted, -⟩
    · obtain ⟨generations, update, rfl⟩ := generationStep_gives _ _ stamps
      obtain ⟨nodes, link, requeue, rfl⟩ := nodeStep_gives _ _ asks
      have sub : part ⊆ (first ++ (part ++ more)) ++ after := fun x member =>
        List.mem_append_left _ (List.mem_append_right _ (List.mem_append_left _ member))
      rcases runSteps_cons.mp follows with
        ⟨e, -, same⟩ | ⟨next, states, -, same⟩ | ⟨next, _, _, -, states, -, others⟩
      · cases same
        exact absurd finished (goes known)
      · cases same
        obtain ⟨single, generated⟩ := stateStep_finishes distinct known _ _ states finished
        exact ⟨generated ▸ single, _, _, part, sub, stamps, generated⟩
      · have ended : next.status.blueGreenUpdate = none := by
          have same := runSteps_keeps_update (by decide) others
          rw [finished.1] at same
          exact Option.isNone_iff_eq_none.mp (by rw [← Option.not_isSome, ← same]; rfl)
        cases runSteps_idle ended (fun _ member => member) others
        obtain ⟨single, generated⟩ := stateStep_finishes distinct known _ _ states finished
        exact ⟨generated ▸ single, _, _, part, sub, stamps, generated⟩
    · rw [going] at halted
      cases halted

/-! ### Passes that report it -/

theorem showsSets_of_quiet (quiet : Quiet log) (unlisted : ∀ x ∈ log, ¬ x.call.IsListing) : ShowsSets log where
  distinct _ _ _ member := absurd trivial (unlisted _ member)
  scaled _ _ _ _ member := absurd trivial (quiet _ member)
  created _ _ _ member := absurd trivial (quiet _ member)

theorem showsSets_append {rest : List Exchange} (first : ShowsSets log) (later : ShowsSets rest) :
    ShowsSets (log ++ rest) where
  distinct ns selector sets member := (List.mem_append.mp member).elim
    (first.distinct ns selector sets) (later.distinct ns selector sets)
  scaled ns name replicas set member := (List.mem_append.mp member).elim
    (first.scaled ns name replicas set) (later.scaled ns name replicas set)
  created ns manifest set member := (List.mem_append.mp member).elim
    (first.created ns manifest set) (later.created ns manifest set)

theorem Step.run_showsSets (step : Step) (pace : Pace) {r : Except Failure ClusterPass}
    (notStamping : step ≠ .generations) (notEvacuating : step ≠ .evacuation)
    (ends : (step.run c pace p).Ends log r) : ShowsSets log :=
  showsSets_of_quiet (Step.run_quiet step notStamping notEvacuating ends) (Step.run_unlisted notStamping ends)

/-- A pass over a cluster of which no replica is ready reports the update as finished if it finds one generation live
or none. -/
theorem runSteps_reports (pace : Pace) {ns name : String} {generations : List Generation} {part : List Exchange}
    (left : s.currentState ≠ .empty) (known : s.blueGreenUpdate.isSome = true) (place : c.placed = .ok ns)
    (stamps : ∀ p, (c.generationStep p).Ends part (.ok { p with generations, update := some name }))
    (shows : ShowsSets part) (unready : Generation.chooseReplica? generations (some name) = none)
    (single : (Generation.live generations).length ≤ 1) :
    ∃ log q, (c.runSteps pace Step.all (.start s)).Yields log (q, none) ∧ q.generations = generations ∧
      q.status.SaysFinished ∧ ShowsSets log ∧ part ⊆ log := by
  have booted := bootstrapStep_succeeds pace (p := .start s) left place
  have stamped := stamps { ClusterPass.start s with initReady := true }
  obtain ⟨asked, asks, status, generated, updates, ready, link, going⟩ : ∃ asked,
      (c.nodeStep pace { ClusterPass.start s with initReady := true, generations, update := some name }).Ends []
        (.ok asked) ∧ asked.status = { s with nodes := [] } ∧ asked.generations = generations ∧
      asked.update = some name ∧ asked.initReady = true ∧ asked.link = none ∧ asked.halted = false := by
    have asks : (c.nodeStep pace { ClusterPass.start s with
        initReady := true, generations, update := some name }).Ends [] (.ok (ClusterPass.ask
          { ClusterPass.start { s with nodes := [] } with initReady := true, generations, update := some name }
          (.retryAfter pace.retry))) := by
      unfold nodeStep
      dsimp only
      rw [unready]
      exact ends_pure.mpr ⟨rfl, rfl⟩
    exact ⟨_, asks, rfl, rfl, rfl, rfl, rfl, rfl⟩
  have advanced : asked.status.advance (c.observe asked.initReady asked.status.nodes asked.generations asked.update)
      default = ((asked.status.recorded (c.observe asked.initReady asked.status.nodes asked.generations asked.update)
        default).finishUpdate default, .continue) := by
    refine ClusterStatus.advance_of_single ?_ ready ?_
    · rw [status]
      exact left
    · rw [generated]
      exact single
  obtain ⟨told, -, stated⟩ := stateStep_succeeds (c := c) pace (p := asked)
    (congrArg Prod.snd advanced)
  rw [advanced] at stated
  have finished : ((asked.status.recorded (c.observe asked.initReady asked.status.nodes asked.generations
      asked.update) default).finishUpdate default).SaysFinished := by
    refine ClusterStatus.finishUpdate_saysFinished ?_
    rw [ClusterStatus.recorded_blueGreenUpdate, status]
    exact known
  generalize ended : ((asked.status.recorded (c.observe asked.initReady asked.status.nodes asked.generations
      asked.update) default).finishUpdate default) = s' at stated finished
  have spared : (c.evacuationStep pace { asked with status := s' }).Ends [] (.ok { asked with status := s' }) := by
    unfold evacuationStep
    dsimp only
    rw [finished.1]
    exact ends_pure.mpr ⟨rfl, rfl⟩
  obtain ⟨set, gated⟩ := gateStep_comes place { asked with status := s' }
  have listened : (c.listenerStep { asked with status := s' }).Ends [] (.ok { asked with status := s' }) := by
    unfold listenerStep
    dsimp only
    rw [link]
    exact ends_pure.mpr ⟨rfl, rfl⟩
  have arrives := reaches_cons .initResources booted rfl (reaches_cons .generations stamped rfl
    (reaches_cons .nodes asks going (reaches_cons .stateMachine stated going (reaches_cons .evacuation spared going
      (reaches_cons .readinessGates gated going (reaches_cons .listeners listened going (reaches_nil going)))))))
  refine ⟨_, _, arrives.1, generated, finished, ?_, ?_⟩
  · have bootShows := Step.run_showsSets .initResources pace (by decide) (by decide) booted
    have stateShows := Step.run_showsSets .stateMachine pace (by decide) (by decide) stated
    have gateShows := Step.run_showsSets .readinessGates pace (by decide) (by decide) gated
    have none : ShowsSets [] := showsSets_of_quiet quiet_nil fun _ member => nomatch member
    exact showsSets_append bootShows (showsSets_append shows (showsSets_append none (showsSets_append stateShows
      (showsSets_append none (showsSets_append gateShows (showsSets_append none none))))))
  · exact fun x member => List.mem_append_right _ (List.mem_append_left _ member)

end Cluster

def Generation.emptied (g : Generation) : Generation :=
  { g with replicas := 0 }

def Kubernetes.StatefulSet.emptied (set : StatefulSet) : StatefulSet :=
  { set with replicas := some 0 }

theorem Generation.ofSet?_emptied {pods : List Pod} {set : StatefulSet} {g : Generation}
    (made : ofSet? pods set = some g) : ofSet? pods set.emptied = some g.emptied := by
  unfold ofSet? at made ⊢
  cases named : set.name with
  | none =>
      rw [named] at made
      cases made
  | some name =>
      cases hashed : set.hash with
      | none =>
          rw [named, hashed] at made
          cases made
      | some hash =>
          rw [named, hashed] at made
          cases made
          rw [show set.emptied.name = some name from named, show set.emptied.hash = some hash from hashed]
          rfl

theorem collect_drained : Generation.collect [secondSet, firstSet.emptied] (samplePods false false) =
    [sampleGeneration "broker-second" "broker:2" 200 false,
      (sampleGeneration "broker-first" "broker:1" 100 false).emptied] := by
  have first : Generation.ofSet? (samplePods false false) firstSet.emptied =
      some (sampleGeneration "broker-first" "broker:1" 100 false).emptied :=
    Generation.ofSet?_emptied (ofSet?_sample rfl)
  have second : Generation.ofSet? (samplePods false false) secondSet =
      some (sampleGeneration "broker-second" "broker:2" 200 false) := ofSet?_sample rfl
  simp only [Generation.collect, List.filterMap_cons, first, second, List.filterMap_nil, mergeSort_pair]
  rfl

theorem collect_stopped {sets : List StatefulSet}
    (shown : sets = [firstSet, secondSet.emptied] ∨ sets = [secondSet.emptied, firstSet]) :
    Generation.collect sets (samplePods false false) =
      [sampleGeneration "broker-first" "broker:1" 100 false,
        (sampleGeneration "broker-second" "broker:2" 200 false).emptied] := by
  have first : Generation.ofSet? (samplePods false false) firstSet =
      some (sampleGeneration "broker-first" "broker:1" 100 false) := ofSet?_sample rfl
  have second : Generation.ofSet? (samplePods false false) secondSet.emptied =
      some (sampleGeneration "broker-second" "broker:2" 200 false).emptied :=
    Generation.ofSet?_emptied (ofSet?_sample rfl)
  rcases shown with rfl | rfl
  · simp only [Generation.collect, List.filterMap_cons, first, second, List.filterMap_nil, mergeSort_pair]
    rfl
  · simp only [Generation.collect, List.filterMap_cons, first, second, List.filterMap_nil, mergeSort_pair]
    rfl

def stoppedCluster (s : ClusterStatus) : Cluster :=
  { sampleCluster "broker:2" s with spec := { (sampleCluster "broker:2" s).spec with replicas := 0 } }

theorem distinct_pair {a b : StatefulSet} (differ : a.name ≠ b.name) :
    ∀ x ∈ [a, b], ∀ y ∈ [a, b], x.name = y.name → x = y := by
  intro x hx y hy same
  rcases List.mem_pair.mp hx with rfl | rfl
  · rcases List.mem_pair.mp hy with rfl | rfl
    · rfl
    · exact absurd same differ
  · rcases List.mem_pair.mp hy with rfl | rfl
    · exact absurd same.symm differ
    · rfl

theorem showsSets_listing {selector : String} {a b : StatefulSet} (differ : a.name ≠ b.name) :
    ShowsSets [⟨.listSets "default" selector, .ok [a, b]⟩,
      ⟨.listPods "default" selector, .ok (samplePods false false)⟩] where
  distinct ns selector sets member := by
    simp only [List.mem_cons, List.not_mem_nil, or_false] at member
    rcases member with same | same
    · cases same
      exact distinct_pair differ
    · cases same
  scaled ns name replicas set member := by
    simp only [List.mem_cons, List.not_mem_nil, or_false] at member
    rcases member with same | same <;> cases same
  created ns manifest set member := by
    simp only [List.mem_cons, List.not_mem_nil, or_false] at member
    rcases member with same | same <;> cases same

theorem showsSets_stopped {selector : String} :
    ShowsSets [⟨.listSets "default" selector, .ok [secondSet, firstSet]⟩,
      ⟨.write "default" (.scaleGeneration "broker-second" 0), .ok secondSet.emptied⟩,
      ⟨.listPods "default" selector, .ok (samplePods false false)⟩] where
  distinct ns selector sets member := by
    simp only [List.mem_cons, List.not_mem_nil, or_false] at member
    rcases member with same | same | same
    · cases same
      exact distinct_pair (show some "broker-second" ≠ some "broker-first" by decide)
    · cases same
    · cases same
  scaled ns name replicas set member := by
    simp only [List.mem_cons, List.not_mem_nil, or_false] at member
    rcases member with same | same | same
    · cases same
    · cases same
      exact ⟨rfl, rfl, rfl⟩
    · cases same
  created ns manifest set member := by
    simp only [List.mem_cons, List.not_mem_nil, or_false] at member
    rcases member with same | same | same <;> cases same

theorem drained_pass_reports {s : ClusterStatus} (left : s.currentState ≠ .empty)
    (known : s.blueGreenUpdate.isSome = true) : ∃ log q,
      ((sampleCluster "broker:2" s).runSteps default Step.all (.start s)).Yields log (q, none) ∧
      q.status.SaysFinished ∧ ShowsSets log ∧
      (sampleCluster "broker:2" s).Resolves log "default" "broker-second" := by
  have head : Cluster.existingOf [secondSet, firstSet.emptied] =
      [⟨"broker-second", some (sampleHash "broker:2")⟩, ⟨"broker-first", some (sampleHash "broker:1")⟩] := rfl
  have stamps : ∀ p, ((sampleCluster "broker:2" s).generationStep p).Ends _ (.ok _) := fun p =>
    Cluster.generationStep_succeeds (p := p) rfl sample_desired (sample_resolves head) rfl (samplePods false false)
  rw [collect_drained] at stamps
  have differ : secondSet.name ≠ firstSet.emptied.name := show some "broker-second" ≠ some "broker-first" by decide
  obtain ⟨log, q, run, -, finished, shows, sub⟩ := Cluster.runSteps_reports default left known rfl stamps
    (showsSets_listing differ) rfl (by decide +kernel)
  exact ⟨log, q, run, finished, shows, Cluster.Resolves.mono
    ⟨rfl, _, _, _, sample_desired, List.mem_cons_self, sample_resolves head, rfl⟩ sub⟩

theorem stopped_pass_reports {s : ClusterStatus} (left : s.currentState ≠ .empty)
    (known : s.blueGreenUpdate.isSome = true) : ∃ log q,
      ((stoppedCluster s).runSteps default Step.all (.start s)).Yields log (q, none) ∧
      q.status.SaysFinished ∧ ShowsSets log ∧ (stoppedCluster s).Resolves log "default" "broker-second" ∧
      sampleGeneration "broker-first" "broker:1" 100 false ∈ q.generations := by
  have head : Cluster.existingOf [secondSet, firstSet] =
      [⟨"broker-second", some (sampleHash "broker:2")⟩, ⟨"broker-first", some (sampleHash "broker:1")⟩] := rfl
  have other : ([secondSet, firstSet].find? (·.name == some "broker-second")).bind (·.replicas) ≠
      some (stoppedCluster s).spec.replicas := show some (1 : Int32) ≠ some 0 by decide
  have resolves : (stoppedCluster s).resolveGeneration (sampleTemplate "broker:2" s)
      (Cluster.existingOf [secondSet, firstSet]) = .ok (.adopt "broker-second" (sampleHash "broker:2")) := by
    rw [head]
    exact Cluster.resolveGeneration_head rfl
  have stamps : ∀ p, ((stoppedCluster s).generationStep p).Ends _ (.ok _) := fun p =>
    Cluster.generationStep_resizes (p := p) rfl rfl resolves other secondSet.emptied (samplePods false false)
  have put : Cluster.putSet secondSet.emptied [secondSet, firstSet] = [secondSet.emptied, firstSet] := if_pos rfl
  rw [put, collect_stopped (.inr rfl)] at stamps
  obtain ⟨log, q, run, generations, finished, shows, sub⟩ := Cluster.runSteps_reports default left known rfl stamps
    showsSets_stopped rfl (by decide +kernel)
  refine ⟨log, q, run, finished, shows, Cluster.Resolves.mono
    ⟨rfl, _, _, _, rfl, List.mem_cons_self, resolves, rfl⟩ sub, ?_⟩
  rw [generations]
  exact List.mem_cons_self

theorem reverted_pass_reports {s : ClusterStatus} (left : s.currentState ≠ .empty)
    (known : s.blueGreenUpdate.isSome = true) : ∃ log q,
      ((sampleCluster "broker:1" s).runSteps default Step.all (.start s)).Yields log (q, none) ∧
      q.status.SaysFinished ∧ ShowsSets log ∧
      sampleGeneration "broker-first" "broker:1" 100 false ∈ q.generations := by
  have head : Cluster.existingOf [firstSet, secondSet.emptied] =
      [⟨"broker-first", some (sampleHash "broker:1")⟩, ⟨"broker-second", some (sampleHash "broker:2")⟩] := rfl
  have stamps : ∀ p, ((sampleCluster "broker:1" s).generationStep p).Ends _ (.ok _) := fun p =>
    Cluster.generationStep_succeeds (p := p) rfl sample_desired (sample_resolves head) rfl (samplePods false false)
  rw [collect_stopped (.inl rfl)] at stamps
  have differ : firstSet.name ≠ secondSet.emptied.name := show some "broker-first" ≠ some "broker-second" by decide
  obtain ⟨log, q, run, generations, finished, shows, -⟩ := Cluster.runSteps_reports default left known rfl stamps
    (showsSets_listing differ) rfl (by decide +kernel)
  refine ⟨log, q, run, finished, shows, ?_⟩
  rw [generations]
  exact List.mem_cons_self

theorem origin_not_resolved {c : Cluster} {log : List Exchange} {s : ClusterStatus}
    {result : ClusterPass × Option (Step × Failure)}
    (run : (c.runSteps default Step.all (.start s)).Yields log result)
    (resolves : c.Resolves log "default" "broker-second") :
    ∀ ns, ¬ c.Resolves log ns sampleUpdate.originGeneration := by
  intro ns origin
  have same := (resolves.unique (Cluster.runSteps_listsOnce (by decide) run) origin).2
  exact absurd same (by decide)

/-! ### The origin of a finished update -/

/-- A pass that reports an update as finished has collected one live generation at most. If replicas are desired and
the origin is not the generation of the desired template, then the origin has no replicas left. -/
theorem Cluster.origin_gone_when_finished {c : Cluster} {pace : Pace} {log : List Exchange} {q : ClusterPass}
    {failure : Option (Step × Failure)} {now : Instant} {u : BlueGreenUpdate}
    (reached : (c.status.getD .initial).Reached)
    (updating : (c.status.getD .initial).blueGreenUpdate = some u)
    (run : (c.runSteps pace Step.all (.start (c.status.getD .initial))).Yields log (q, failure))
    (finished : (c.settled q failure now).SaysFinished) :
    (∃ sets pods, q.generations = Generation.collect sets pods) ∧
    (Generation.live q.generations).length ≤ 1 ∧
    (ShowsSets log → 0 < c.spec.replicas → (∀ ns, ¬ c.Resolves log ns u.originGeneration) →
      ∀ g ∈ q.generations, g.name = u.originGeneration → g.isLive = false) := by
  have known : (c.status.getD .initial).blueGreenUpdate.isSome = true := by
    rw [updating]
    rfl
  obtain ⟨single, booted, stamped, part, sub, stamps, same⟩ :=
    runSteps_finishes reached.coherent.1.distinct known run (settled_saysFinished.mp finished)
  obtain ⟨ns, name, sets, pods, resolves, rfl, provides⟩ := generationStep_provides stamps
  refine ⟨⟨sets, pods, same⟩, single, fun shows wanted other g member named => ?_⟩
  obtain ⟨set, there, stands⟩ := provides (shows.part sub)
  obtain ⟨update, collected, sameName, sized⟩ := Generation.collect_of_stands there stands pods
  have collected : update ∈ q.generations := same ▸ collected
  have live : update.isLive = true := by
    unfold Generation.isLive
    rw [sized]
    exact decide_eq_true wanted
  by_contra alive
  rw [Bool.not_eq_false] at alive
  have differ : update ≠ g := by
    rintro rfl
    rw [← named, sameName] at other
    exact other ns (resolves.mono sub)
  have several := Generation.one_lt_live collected member live alive differ
  omega

theorem drained_origin_gone : ∃ (c : Cluster) (pace : Pace) (log : List Exchange) (q : ClusterPass)
    (failure : Option (Step × Failure)) (now : Instant) (u : BlueGreenUpdate),
    (c.status.getD .initial).Reached ∧ (c.status.getD .initial).blueGreenUpdate = some u ∧
    (c.runSteps pace Step.all (.start (c.status.getD .initial))).Yields log (q, failure) ∧
    (c.settled q failure now).SaysFinished ∧ ShowsSets log ∧ 0 < c.spec.replicas ∧
    (∀ ns, ¬ c.Resolves log ns u.originGeneration) ∧
    ∀ g ∈ q.generations, g.name = u.originGeneration → g.isLive = false := by
  obtain ⟨s, reached, left, known⟩ := reached_updating
  obtain ⟨log, q, run, finished, shows, resolves⟩ := drained_pass_reports left (by rw [known]; rfl)
  have reported : ((sampleCluster "broker:2" s).settled q none (sampleTime 2)).SaysFinished :=
    Cluster.settled_saysFinished.mpr finished
  have other := origin_not_resolved run resolves
  have wanted : 0 < (sampleCluster "broker:2" s).spec.replicas := show (0 : Int32) < 1 by decide
  refine ⟨sampleCluster "broker:2" s, default, log, q, none, sampleTime 2, sampleUpdate, reached, known, run, reported,
    shows, wanted, other, ?_⟩
  exact (Cluster.origin_gone_when_finished (c := sampleCluster "broker:2" s) reached known run reported).2.2
    shows wanted other

/-- Under a condition on the pass, an update is reported as finished only once its origin has no replicas left. -/
def FinishedOnceGone (condition : Cluster → List Exchange → BlueGreenUpdate → Prop) : Prop :=
  ∀ (c : Cluster) (pace : Pace) (log : List Exchange) (q : ClusterPass) (failure : Option (Step × Failure))
    (now : Instant) (u : BlueGreenUpdate),
    (c.status.getD .initial).Reached → (c.status.getD .initial).blueGreenUpdate = some u →
    (c.runSteps pace Step.all (.start (c.status.getD .initial))).Yields log (q, failure) →
    (c.settled q failure now).SaysFinished → ShowsSets log → condition c log u →
    ∀ g ∈ q.generations, g.name = u.originGeneration → g.isLive = false

/-- An update is reported as finished while its origin is live when no replicas are desired any more, and also when
the template has gone back to that of the origin. -/
theorem live_origin_left_by_finished_update :
    ¬ FinishedOnceGone (fun c log u => ∀ ns, ¬ c.Resolves log ns u.originGeneration) ∧
    ¬ FinishedOnceGone (fun c _ _ => 0 < c.spec.replicas) := by
  obtain ⟨s, reached, left, known⟩ := reached_updating
  have updating : s.blueGreenUpdate.isSome = true := by
    rw [known]
    rfl
  have live : (sampleGeneration "broker-first" "broker:1" 100 false).isLive = true := rfl
  constructor
  · intro gone
    obtain ⟨log, q, run, finished, shows, resolves, member⟩ := stopped_pass_reports left updating
    have drained := gone (stoppedCluster s) default log q none (sampleTime 2) sampleUpdate reached known run
      (Cluster.settled_saysFinished.mpr finished) shows (origin_not_resolved run resolves) _ member rfl
    rw [live] at drained
    cases drained
  · intro gone
    obtain ⟨log, q, run, finished, shows, member⟩ := reverted_pass_reports left updating
    have drained := gone (sampleCluster "broker:1" s) default log q none (sampleTime 2) sampleUpdate reached known run
      (Cluster.settled_saysFinished.mpr finished) shows (show (0 : Int32) < 1 by decide) _ member rfl
    rw [live] at drained
    cases drained

end BrokerFleet
