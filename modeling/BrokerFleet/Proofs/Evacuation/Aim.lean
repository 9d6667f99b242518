import BrokerFleet.Proofs.Numerals
import BrokerFleet.Proofs.Pass.Effects
import BrokerFleet.Proofs.Pass.Evacuation
import BrokerFleet.Proofs.Pass.Unhindered
import BrokerFleet.Proofs.Separators

/-!
Which generation the evacuation acts on. That is the origin of the update that is recorded, which is chosen
anew only while the update generation serves and another one is live. At other times the origin stays as it was
recorded, whatever generation the desired template belongs to or serves by then.
-/

namespace BrokerFleet

open Kubernetes Attempt

/-! ### Nodes of a generation -/

theorem splitLast?_podName (g : String) (n : Nat) :
    Text.splitLast? '-' (g ++ "-" ++ toString n).toList = some (g.toList, (toString n).toList) := by
  rw [String.toList_append, String.toList_append, List.append_assoc]
  exact Text.splitLast?_append (Text.not_mem_toString (by decide))

theorem podName_inj {g g' : String} {m n : Nat}
    (same : g ++ "-" ++ toString m = g' ++ "-" ++ toString n) : g = g' := by
  have parts := splitLast?_podName g m
  rw [same, splitLast?_podName, Option.some.injEq, Prod.mk.injEq] at parts
  exact String.toList_inj.mp parts.1.symm

namespace Cluster

variable {c : Cluster} {pace : Pace} {s : ClusterStatus} {p : ClusterPass} {g : String}
  {log before : List Exchange} {r : Except Failure ClusterPass}

theorem nodeOf_inj {pod pod' node : String} (h : c.nodeOf pod = .ok node) (h' : c.nodeOf pod' = .ok node) :
    pod = pod' := by
  unfold nodeOf at h h'
  cases place : c.placed with
  | error e =>
      rw [place] at h
      cases h
  | ok ns =>
      rw [place] at h h'
      have same : nodeAt (c.hostOf ns pod) = nodeAt (c.hostOf ns pod') :=
        (Except.ok.inj h).trans (Except.ok.inj h').symm
      simpa only [nodeAt, hostOf, String.append_right_inj, String.append_left_inj] using same

def ActsOn (c : Cluster) (log : List Exchange) (g : String) : Prop :=
  (∃ ns replicas reply, ⟨.write ns (.scaleGeneration g replicas), reply⟩ ∈ log) ∨
    ∃ peer port credentials node order reply, ∃ ordinal : Nat,
      ⟨.send peer port credentials (.startEvacuation node order), reply⟩ ∈ log ∧
      c.nodeOf (g ++ "-" ++ toString ordinal) = .ok node

/-- A pass over the cluster comes to the evacuation with what `p` knows, and the evacuation acts on the
generation of that name. -/
def Evacuates (c : Cluster) (pace : Pace) (p : ClusterPass) (g : String) : Prop :=
  ∃ before log r, c.Reaches pace beforeEvacuation (.start (c.status.getD .initial)) before p ∧
    (c.evacuationStep pace p).Ends log r ∧ c.ActsOn log g

theorem status_at_evacuation (arrives : c.Reaches pace beforeEvacuation (.start s) before p) :
    ∃ nodes now, p.status = (({ s with nodes } : ClusterStatus).advance
        (c.observe true nodes p.generations p.update) now).1 ∧
      (({ s with nodes } : ClusterStatus).advance
        (c.observe true nodes p.generations p.update) now).2 = .continue := by
  obtain ⟨booted, _, _, -, taken, going, afterBoot⟩ := Reaches.uncons arrives
  obtain ⟨stamped, _, _, -, stamps, -, afterStamping⟩ := Reaches.uncons afterBoot
  obtain ⟨asked, _, _, -, asks, -, afterAsking⟩ := Reaches.uncons afterStamping
  obtain ⟨stated, _, _, -, states, proceeds, arrived⟩ := Reaches.uncons afterAsking
  obtain ⟨-, same⟩ := runSteps_nil.mp arrived.1
  cases same
  rcases (bootstrapStep_gives _ _ taken).2 with rfl | ⟨halted, -⟩
  · obtain ⟨generations, update, rfl⟩ := generationStep_gives _ _ stamps
    obtain ⟨nodes, link, requeue, rfl⟩ := nodeStep_gives _ _ asks
    obtain ⟨now, status, sameGenerations, sameUpdate, -, outcome⟩ := stateStep_gives _ _ states
    refine ⟨nodes, now, ?_⟩
    rw [sameGenerations, sameUpdate]
    exact ⟨status, outcome proceeds⟩
  · rw [going] at halted
    cases halted

theorem eq_of_isMove {asked rest : List Exchange} {x y : Exchange} (hasked : Quiet asked)
    (hrest : Quiet rest) (member : y ∈ asked ++ x :: rest) (move : y.call.IsMove) : y = x := by
  rcases List.mem_append.mp member with early | late
  · exact absurd move (hasked y early)
  · rcases List.mem_cons.mp late with same | later
    · exact same
    · exact absurd move (hrest y later)

theorem toString_pred {replicas : Int32} (live : 0 < replicas) :
    ∃ ordinal : Nat, toString (replicas - 1).toInt = toString ordinal := by
  have nonneg : 0 ≤ (replicas - 1).toInt := Int32.le_iff_toInt_le.mp (Generation.pred_of_live live).1
  obtain ⟨ordinal, same⟩ := Int.eq_ofNat_of_zero_le nonneg
  exact ⟨ordinal, by rw [same]; rfl⟩

theorem origin_of_actsOn (ends : (c.evacuationStep pace p).Ends log r) (acts : c.ActsOn log g) :
    ∃ u, p.status.blueGreenUpdate = some u ∧ u.originGeneration = g := by
  rcases evacuationStep_ends ends with quiet | moves
  · rcases acts with ⟨ns, replicas, reply, member⟩ | ⟨_, _, _, _, _, _, _, member, -⟩
    · exact absurd trivial (quiet _ member)
    · exact absurd trivial (quiet _ member)
  · cases moves with
    | shrink grounds record listed sameNode drained place reply hasked hrest =>
        refine ⟨grounds.update, grounds.recorded, (Generation.find?_spec grounds.found).2.symm.trans ?_⟩
        rcases acts with ⟨ns, replicas, reply', member⟩ | ⟨_, _, _, _, _, _, _, member, -⟩
        · have same := congrArg Exchange.call (eq_of_isMove hasked hrest member trivial)
          cases same
          rfl
        · have same := congrArg Exchange.call (eq_of_isMove hasked hrest member trivial)
          cases same
    | evacuate grounds order reply hasked hrest =>
        refine ⟨grounds.update, grounds.recorded, (Generation.find?_spec grounds.found).2.symm.trans ?_⟩
        rcases acts with ⟨ns, replicas, reply', member⟩ | ⟨_, _, _, _, _, _, ordinal, member, named⟩
        · have same := congrArg Exchange.call (eq_of_isMove hasked hrest member trivial)
          cases same
        · have same := congrArg Exchange.call (eq_of_isMove hasked hrest member trivial)
          cases same
          obtain ⟨last, counted⟩ := toString_pred grounds.live
          have pods := nodeOf_inj grounds.last named
          rw [counted] at pods
          exact podName_inj pods

/-! ### Origins -/

/-- The update generation serves, and there is another live one to move clients from. -/
def HandsOver (c : Cluster) (p : ClusterPass) : Prop :=
  ∃ serving origin, Generation.serving? p.generations c.spec.replicas = some serving ∧
    p.update = some serving.name ∧ Generation.origin? p.generations serving.name = some origin

theorem handsOver_iff {initReady : Bool} {nodes : List ClusterNode} :
    c.HandsOver p ↔ (c.observe initReady nodes p.generations p.update).updateServes = true ∧
      (c.observe initReady nodes p.generations p.update).origin.isSome = true := by
  constructor
  · intro h
    rcases h with ⟨serving, origin, serves, update, first⟩
    have member : serving ∈ p.generations := List.mem_of_find?_eq_some serves
    obtain ⟨found, hfound⟩ : ∃ found, Generation.find? serving.name p.generations = some found := by
      refine Option.isSome_iff_exists.mp (List.find?_isSome.mpr ⟨serving, member, ?_⟩)
      exact beq_self_eq_true _
    have named : found.name = serving.name := (Generation.find?_spec hfound).2
    unfold Observation.updateServes observe
    rw [serves, update]
    simp only [Option.bind_some, hfound, Option.map_some, first, Option.isSome_some, and_true]
    exact beq_iff_eq.mpr named
  · intro h
    rcases h with ⟨serves, present⟩
    unfold Observation.updateServes at serves
    split at serves
    · next update serving hupdate hserving =>
      obtain ⟨found, hfound, rfl⟩ := Option.map_eq_some_iff.mp hserving
      obtain ⟨name, hname⟩ : ∃ name, p.update = some name := by
        cases known : p.update with
        | none =>
            rw [known] at hupdate
            cases hupdate
        | some name => exact ⟨name, rfl⟩
      rw [hname] at hupdate present
      obtain ⟨g, hg, rfl⟩ := Option.map_eq_some_iff.mp hupdate
      have named : g.name = name := (Generation.find?_spec hg).2
      have same : g.name = found.name := beq_iff_eq.mp serves
      obtain ⟨origin, horigin⟩ := Option.isSome_iff_exists.mp present
      obtain ⟨oldest, first, -⟩ := Option.map_eq_some_iff.mp horigin
      refine ⟨found, oldest, hfound, ?_, ?_⟩
      · rw [hname, ← named, same]
      · rw [← same, named]
        exact first
    · cases serves

end Cluster

namespace ClusterStatus

variable {s : ClusterStatus} {o : Observation} {now : Instant} {u : BlueGreenUpdate}

/-- The origin of the update that is chosen is the one that is observed while the update generation serves,
and otherwise the one that was recorded. -/
theorem chooseUpdate_origin (h : s.chooseUpdate o now = some u) :
    (o.updateServes = true ∧ o.origin = some u.originGeneration) ∨
      (¬ (o.updateServes = true ∧ o.origin.isSome = true) ∧ s.blueGreenUpdate = some u) := by
  unfold chooseUpdate at h
  split at h
  · next update origin serves hupdate horigin =>
    refine .inl ⟨serves, ?_⟩
    split at h
    · next known =>
      rw [h, Option.any_some, Bool.and_eq_true, beq_iff_eq] at known
      rw [horigin, known.1]
    · cases h
      exact horigin
  · next stale =>
    refine .inr ⟨?_, h⟩
    intro h
    rcases h with ⟨serves, present⟩
    obtain ⟨origin, horigin⟩ := Option.isSome_iff_exists.mp present
    cases hupdate : o.update with
    | none =>
        unfold Observation.updateServes at serves
        rw [hupdate] at serves
        cases serves
    | some update => exact stale update origin serves hupdate horigin

theorem advance_update (proceeds : (s.advance o now).2 = .continue)
    (found : (s.advance o now).1.blueGreenUpdate = some u) :
    s.chooseUpdate o now = some u ∧
      (s.advance o now).1.currentGeneration = (o.serving <|> s.currentGeneration) := by
  rcases advance_cases s o now with ⟨-, h⟩ | ⟨-, -, h⟩ | ⟨-, -, -, h⟩ | ⟨-, -, -, h⟩
  · rw [h] at proceeds
    cases proceeds
  · rw [h] at found
    unfold finishUpdate at found
    split at found
    · cases found
    · next present =>
      rw [found] at present
      exact absurd rfl present
  · rw [h] at found ⊢
    exact ⟨found, rfl⟩
  · rw [h] at proceeds
    cases proceeds

end ClusterStatus

namespace Cluster

variable {c : Cluster} {pace : Pace} {s : ClusterStatus} {p : ClusterPass} {g : String}
  {log before : List Exchange} {r : Except Failure ClusterPass}

/-- What a pass has to do with the generation that its evacuation acts on: it is the oldest live one besides the
update generation, which serves; or it is the origin that was recorded before the pass. -/
theorem origin_cases (evacuates : c.Evacuates pace p g) :
    (∃ serving, c.HandsOver p ∧ Generation.serving? p.generations c.spec.replicas = some serving ∧
      p.update = some serving.name ∧ serving.name ≠ g ∧
      p.status.currentGeneration = some serving.status) ∨
    (¬ c.HandsOver p ∧
      (∃ b, (c.status.getD .initial).blueGreenUpdate = some b ∧ b.originGeneration = g) ∧
      p.status.currentGeneration =
        ((Generation.serving? p.generations c.spec.replicas).map Generation.status <|>
          (c.status.getD .initial).currentGeneration)) := by
  obtain ⟨before, log, r, arrives, ends, acts⟩ := evacuates
  obtain ⟨nodes, now, status, proceeds⟩ := status_at_evacuation arrives
  obtain ⟨u, recorded, rfl⟩ := origin_of_actsOn ends acts
  rw [status] at recorded ⊢
  obtain ⟨chosen, current⟩ := ClusterStatus.advance_update proceeds recorded
  rw [current]
  rcases ClusterStatus.chooseUpdate_origin chosen with ⟨serves, horigin⟩ | ⟨stale, known⟩
  · have handsOver : c.HandsOver p := handsOver_iff.mpr ⟨serves, by rw [horigin]; rfl⟩
    obtain ⟨serving, origin, hserving, hupdate, first⟩ := handsOver
    refine .inl ⟨serving, ⟨serving, origin, hserving, hupdate, first⟩, hserving, hupdate, ?_, ?_⟩
    · have shown : (p.update.bind (Generation.origin? p.generations)).map (·.name) =
          some u.originGeneration := horigin
      rw [hupdate, Option.bind_some, first, Option.map_some] at shown
      rw [← Option.some.inj shown]
      exact (Generation.origin?_spec first).2.2.symm
    · show ((Generation.serving? p.generations c.spec.replicas).map Generation.status <|> _) = _
      rw [hserving]
      rfl
  · exact .inr ⟨fun h => stale (handsOver_iff.mp h), ⟨u, known, rfl⟩, rfl⟩

end Cluster

/-! ### Passes over the sample -/

theorem Cluster.bootstrapStep_halts {c : Cluster} {pace : Pace} {p : ClusterPass}
    (empty : p.status.currentState = .empty) (unready : p.initReady = false) (now : Instant) :
    (c.bootstrapStep pace p).Ends [⟨.clock, now⟩] (.ok (({ p with
      initReady := false
      status := (p.status.advance (.pending c.capability c.spec.replicas) now).1 }.ask
        (.retryAfter pace.retry)).halt)) := by
  unfold bootstrapStep
  dsimp only
  rw [if_pos empty, unready]
  refine ends_now_bind.mpr ⟨now, [], rfl, ?_⟩
  rw [if_pos advance_pending]
  exact ends_pure.mpr ⟨rfl, rfl⟩

theorem reached_initResourceReady :
    ∃ s : ClusterStatus, s.Reached ∧ s.currentState ≠ .empty ∧ s.blueGreenUpdate = none := by
  have halts : ((sampleCluster "broker:2" .initial).bootstrapStep default (.start .initial)).Ends _ _ :=
    Cluster.bootstrapStep_halts rfl rfl (sampleTime 0)
  have run : ((sampleCluster "broker:2" .initial).runSteps default Step.all (.start .initial)).Yields _ _ :=
    Cluster.runSteps_cons.mpr (.inr (.inl ⟨_, halts, rfl, rfl⟩))
  exact ⟨_, .pass (sampleCluster "broker:2" .initial) none (sampleTime 0) .initial run, by decide, rfl⟩

theorem reached_updating : ∃ s : ClusterStatus, s.Reached ∧ s.currentState ≠ .empty ∧
    s.blueGreenUpdate = some sampleUpdate := by
  obtain ⟨s, reached, left, untouched⟩ := reached_initResourceReady
  obtain ⟨before, after, -, -, arrives⟩ := sample_reaches default "broker:2" "broker-second" true true left
    (.inr rfl) rfl rfl rfl (sampleTime 1)
  have recorded : (sampleArrival "broker:2" "broker-second" true true "broker-second-0" s
      (sampleTime 1)).status.blueGreenUpdate = some sampleUpdate := sample_begins left untouched
  have elapsed : BlueGreenUpdate.delayRemaining? sampleUpdate.startedAt 0 (sampleTime 1) = none := by
    decide +kernel
  have found : Generation.find? "broker-first" (sampleGenerations true true) =
      some (sampleGeneration "broker-first" "broker:1" 100 true) := rfl
  have named : (sampleGeneration "broker-first" "broker:1" 100 true).pods.mapM
      (fun pod => (sampleCluster "broker:2" s).nodeOf pod.name) = .ok [sampleNode] := rfl
  have fails := Cluster.evacuationStep_unanswered (c := sampleCluster "broker:2" s) default recorded rfl elapsed
    rfl found (lastReplica?_sample true) named (.client "no answer")
  have run := Cluster.runSteps_fails arrives fails
  have still : (sampleArrival "broker:2" "broker-second" true true "broker-second-0" s
      (sampleTime 1)).status.currentState ≠ .empty := by
    rw [sampleArrival]
    dsimp only
    rw [ClusterStatus.advance_currentState]
    exact ClusterStatus.next_ne_empty
  exact ⟨_, .pass (sampleCluster "broker:2" s) _ (sampleTime 1) reached run, still, recorded⟩

theorem sample_evacuates (image name : String) (firstReady secondReady : Bool) {s : ClusterStatus}
    {sets : List StatefulSet} {rest : List Generation.Existing} {replica : Replica}
    (left : s.currentState ≠ .empty)
    (shown : sets = [firstSet, secondSet] ∨ sets = [secondSet, firstSet])
    (head : Cluster.existingOf sets = ⟨name, some (sampleHash image)⟩ :: rest)
    (sized : (sets.find? (·.name == some name)).bind (·.replicas) = some 1)
    (chosen : Generation.chooseReplica? (sampleGenerations firstReady secondReady) (some name) = some replica)
    (recorded : (sampleArrival image name firstReady secondReady replica.name s
      (sampleTime 2)).status.blueGreenUpdate = some sampleUpdate) :
    (sampleCluster image s).Evacuates default
      (sampleArrival image name firstReady secondReady replica.name s (sampleTime 2)) "broker-first" := by
  have elapsed : BlueGreenUpdate.delayRemaining? sampleUpdate.startedAt 0 (sampleTime 2) = none := by
    decide +kernel
  obtain ⟨before, after, -, -, arrives⟩ := sample_reaches default _ _ _ _ left shown head sized chosen
    (sampleTime 2)
  obtain ⟨more, r, -, -, shrinks⟩ := sample_shrinks default recorded rfl rfl elapsed
    (.error (.answered 500))
  refine ⟨_, _, r, arrives, shrinks, .inl ⟨"default", 1 - 1, .error (.answered 500), ?_⟩⟩
  exact List.mem_cons_of_mem _ (List.mem_cons_of_mem _ List.mem_cons_self)

theorem sample_regular : ∃ s : ClusterStatus, s.Reached ∧ (sampleCluster "broker:2" s).Evacuates default
    (sampleArrival "broker:2" "broker-second" true true "broker-second-0" s (sampleTime 2)) "broker-first" := by
  obtain ⟨s, reached, left, known⟩ := reached_updating
  exact ⟨s, reached, sample_evacuates _ _ _ _ left (.inr rfl) rfl rfl rfl (sample_keeps left known _)⟩

theorem sample_handsOver {s : ClusterStatus} {now : Instant} : (sampleCluster "broker:2" s).HandsOver
    (sampleArrival "broker:2" "broker-second" true true "broker-second-0" s now) :=
  ⟨sampleGeneration "broker-second" "broker:2" 200 true, sampleGeneration "broker-first" "broker:1" 100 true,
    rfl, rfl, rfl⟩

/-! ### The update generation and the one that serves -/

variable {c : Cluster} {pace : Pace} {p : ClusterPass} {g : String}

/-- The evacuation acts on the update generation exactly when that is the origin of an update recorded before,
and the update generation does not serve or no other one is live. -/
theorem Cluster.acts_on_update_generation_iff (evacuates : c.Evacuates pace p g) :
    p.update = some g ↔ ¬ c.HandsOver p ∧
      ∃ b, (c.status.getD .initial).blueGreenUpdate = some b ∧ p.update = some b.originGeneration := by
  rcases Cluster.origin_cases evacuates with
    ⟨serving, handsOver, -, update, differs, -⟩ | ⟨keeps, ⟨b, known, rfl⟩, -⟩
  · refine iff_of_false ?_ fun h => h.1 handsOver
    intro same
    exact differs (Option.some.inj (update.symm.trans same))
  · constructor
    · intro same
      exact ⟨keeps, b, known, same⟩
    · intro h
      rcases h with ⟨-, b', known', same⟩
      cases known.symm.trans known'
      exact same

theorem update_generation_spared_in_service : ∃ (c : Cluster) (pace : Pace) (p : ClusterPass) (g : String),
    (c.status.getD .initial).Reached ∧ c.Evacuates pace p g ∧ c.HandsOver p ∧ p.update ≠ some g := by
  obtain ⟨s, reached, evacuates⟩ := sample_regular
  refine ⟨sampleCluster "broker:2" s, _, _, _, reached, evacuates, sample_handsOver, fun same => ?_⟩
  exact ((Cluster.acts_on_update_generation_iff evacuates).mp same).1 sample_handsOver

/-- A template that goes back while clients move makes the update generation the one that is evacuated. -/
theorem update_generation_not_spared : ¬ ∀ (c : Cluster) (pace : Pace) (p : ClusterPass) (g : String),
    (c.status.getD .initial).Reached → c.Evacuates pace p g → p.update ≠ some g := by
  intro spared
  obtain ⟨s, reached, left, known⟩ := reached_updating
  have evacuates := sample_evacuates "broker:1" "broker-first" true true left (.inl rfl) rfl rfl rfl
    ((sampleArrival_update left _).trans
      (ClusterStatus.chooseUpdate_kept known fun _ _ serves _ _ => nomatch serves))
  exact spared (sampleCluster "broker:1" s) _ _ _ reached evacuates rfl

/-- The evacuation acts on the generation that serves, as the status of the pass names it, exactly when the
pass found no update generation to hand over to and that generation is the origin of an update recorded
before. -/
theorem Cluster.acts_on_serving_generation_iff (evacuates : c.Evacuates pace p g) :
    (∃ current, p.status.currentGeneration = some current ∧ current.name = g) ↔
      ¬ c.HandsOver p ∧ ∃ b current, (c.status.getD .initial).blueGreenUpdate = some b ∧
        ((Generation.serving? p.generations c.spec.replicas).map Generation.status <|>
          (c.status.getD .initial).currentGeneration) = some current ∧ current.name = b.originGeneration := by
  rcases Cluster.origin_cases evacuates with
    ⟨serving, handsOver, -, -, differs, current⟩ | ⟨keeps, ⟨b, known, rfl⟩, current⟩
  · refine iff_of_false ?_ fun h => h.1 handsOver
    intro h
    rcases h with ⟨shown, same, named⟩
    cases current.symm.trans same
    exact differs named
  · rw [current]
    constructor
    · intro h
      rcases h with ⟨shown, same, named⟩
      exact ⟨keeps, b, shown, known, same, named⟩
    · intro h
      rcases h with ⟨-, b', shown, known', same, named⟩
      cases known.symm.trans known'
      exact ⟨shown, same, named⟩

theorem serving_generation_spared_in_service : ∃ (c : Cluster) (pace : Pace) (p : ClusterPass) (g : String),
    (c.status.getD .initial).Reached ∧ c.Evacuates pace p g ∧ c.HandsOver p ∧
    ∀ current, p.status.currentGeneration = some current → current.name ≠ g := by
  obtain ⟨s, reached, evacuates⟩ := sample_regular
  refine ⟨sampleCluster "broker:2" s, _, _, _, reached, evacuates, sample_handsOver, fun current is same => ?_⟩
  exact ((Cluster.acts_on_serving_generation_iff evacuates).mp ⟨current, is, same⟩).1 sample_handsOver

/-- A generation that clients move to and that loses a replica leaves the one that is evacuated to serve. -/
theorem serving_generation_not_spared : ¬ ∀ (c : Cluster) (pace : Pace) (p : ClusterPass) (g : String),
    (c.status.getD .initial).Reached → c.Evacuates pace p g →
    ∀ current, p.status.currentGeneration = some current → current.name ≠ g := by
  intro spared
  obtain ⟨s, reached, left, known⟩ := reached_updating
  have evacuates := sample_evacuates "broker:2" "broker-second" true false left (.inr rfl) rfl rfl rfl
    ((sampleArrival_update left _).trans
      (ClusterStatus.chooseUpdate_kept known fun _ _ serves _ _ => nomatch serves))
  have serves : (sampleArrival "broker:2" "broker-second" true false "broker-first-0" s
      (sampleTime 2)).status.currentGeneration =
      some (sampleGeneration "broker-first" "broker:1" 100 true).status := by
    rw [sampleArrival]
    dsimp only
    rw [sample_advance left]
    rfl
  exact spared (sampleCluster "broker:2" s) _ _ _ reached evacuates _ serves rfl

end BrokerFleet
