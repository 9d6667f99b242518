import BrokerFleet.Proofs.Evacuation.Succession
import BrokerFleet.Proofs.Quiescence.Standing

/-!
Observing the same again. What a status says after an observation is all that the observation has to say to it, so a
second one like it changes nothing, at whatever time it is made: no condition is entered anew, the update that was
chosen is chosen again, and one that was ended is not ended once more.
-/

namespace BrokerFleet

namespace ClusterStatus

variable {s : ClusterStatus} {o : Observation} {c : Condition} {first second now : Instant}

theorem Displays.settle (displays : s.Displays o) (distinct : s.conditions.Distinct) (update : Option BlueGreenUpdate)
    (type : c.type = Condition.blueGreenUpdating) :
    ({ s with blueGreenUpdate := update }.setCondition c now).Displays o where
  proceeds := displays.proceeds
  state := displays.state
  replicas := displays.replicas
  readyReplicas := displays.readyReplicas
  current := displays.current
  update := displays.update
  ready := by
    apply displays.ready.set distinct
    rw [type]
    decide
  running := by
    apply displays.running.set distinct
    rw [type, runningCondition_type]
    decide

/-! ### What is said of an update -/

theorem awaitResources_again (left : s.currentState ≠ .empty) :
    (s.awaitResources first).awaitResources second = s.awaitResources first := by
  have waits : ClusterState.initResourceReady ≠ .empty := by decide
  have known : (s.awaitResources first).conditions.Knows
      (.new Condition.initResourceReady false "ResourcesPending" "waiting for bootstrap resources") := by
    unfold awaitResources
    rw [if_neg left]
    exact Conditions.knows_set
  calc (s.awaitResources first).awaitResources second
      = (s.awaitResources first).setCondition
          (.new Condition.initResourceReady false "ResourcesPending" "waiting for bootstrap resources") second := by
        rw [awaitResources, if_neg (by exact waits)]
        rfl
    _ = s.awaitResources first := setCondition_of_known known

theorem finishUpdate_again : (s.finishUpdate first).finishUpdate second = s.finishUpdate first := by
  apply finishUpdate_of_finished finishUpdate_idle
  unfold finishUpdate
  split
  · exact Conditions.holds_set_self (c := .new Condition.blueGreenUpdating false "Completed" "")
  · next neither => exact (Bool.or_eq_false_iff.mp (Bool.not_eq_true _ ▸ neither)).2

theorem chooseUpdate_again :
    ({ s with blueGreenUpdate := s.chooseUpdate o first }.setCondition c now).chooseUpdate o second =
      s.chooseUpdate o first := by
  have served : ∀ {update : GenerationStatus} {origin : String}, o.updateServes = true → o.update = some update →
      o.origin = some origin → ∃ u, s.chooseUpdate o first = some u ∧
        u.originGeneration = origin ∧ u.currentGeneration = update.name :=
    chooseUpdate_of_serving
  cases chosen : s.chooseUpdate o first with
  | none =>
      unfold chooseUpdate
      split
      · next update origin serves named outgoing =>
        obtain ⟨u, same, -⟩ := served serves named outgoing
        cases chosen.symm.trans same
      · rfl
  | some u =>
      apply chooseUpdate_kept rfl
      intro update origin serves named outgoing
      obtain ⟨v, same, goes⟩ := served serves named outgoing
      cases chosen.symm.trans same
      exact goes

theorem continueUpdate_again : (s.continueUpdate o first).continueUpdate o second = s.continueUpdate o first := by
  have known : (s.continueUpdate o first).conditions.Knows (updateCondition (s.chooseUpdate o first)) :=
    Conditions.knows_set
  calc (s.continueUpdate o first).continueUpdate o second
      = (s.continueUpdate o first).setCondition (updateCondition (s.chooseUpdate o first)) second := by
        have same : (s.continueUpdate o first).chooseUpdate o second = s.chooseUpdate o first := chooseUpdate_again
        rw [continueUpdate, same]
        rfl
    _ = s.continueUpdate o first := setCondition_of_known known

theorem refuseUpdate_again : (s.refuseUpdate o first).refuseUpdate o second = s.refuseUpdate o first := by
  have known : (s.refuseUpdate o first).conditions.Knows
      (.new Condition.blueGreenUpdating false "EvacuationUnsupported" (unsupportedText o)) := Conditions.knows_set
  calc (s.refuseUpdate o first).refuseUpdate o second
      = (s.refuseUpdate o first).setCondition
          (.new Condition.blueGreenUpdating false "EvacuationUnsupported" (unsupportedText o)) second := rfl
    _ = s.refuseUpdate o first := setCondition_of_known known

/-! ### Advancing twice -/

def conclude (s : ClusterStatus) (o : Observation) (now : Instant) : ClusterStatus × Outcome :=
  if o.liveGenerations ≤ 1 then (s.finishUpdate now, .continue)
  else if o.capability.supportsBlueGreen then (s.continueUpdate o now, .continue)
  else (s.refuseUpdate o now, .fatal (unsupportedText o))

theorem advance_of_waits (waits : s.currentState.next o = .initResourceReady) :
    s.advance o now = (s.awaitResources now, .halt) := by
  simp [advance, waits]

theorem advance_of_proceeds (proceeds : s.currentState.next o ≠ .initResourceReady) :
    s.advance o now = (s.recorded o now).conclude o now := by
  unfold advance
  rw [if_neg proceeds]
  rfl

theorem conclude_again : (s.conclude o first).1.conclude o second = s.conclude o first := by
  unfold conclude
  split
  · rw [finishUpdate_again]
  · split
    · rw [continueUpdate_again]
    · rw [refuseUpdate_again]

theorem updateCondition_type {u : Option BlueGreenUpdate} : (updateCondition u).type = Condition.blueGreenUpdating := by
  cases u <;> rfl

theorem Displays.conclude (displays : s.Displays o) (distinct : s.conditions.Distinct) :
    (s.conclude o now).1.Displays o := by
  unfold ClusterStatus.conclude
  split
  · unfold finishUpdate
    split
    · exact displays.settle distinct none rfl
    · exact displays
  · split
    · exact displays.settle distinct _ updateCondition_type
    · exact displays.settle distinct none rfl

theorem advance_displays (distinct : s.conditions.Distinct) (left : s.currentState ≠ .empty)
    (proceeds : s.currentState.next o ≠ .initResourceReady) :
    (s.advance o now).1.Displays o := by
  rw [advance_of_proceeds proceeds]
  exact (recorded_displays distinct left proceeds).conclude (recorded_distinct distinct)

/-- Advancing by the same observation again changes nothing, and goes on in the same way. -/
theorem advance_idempotent (distinct : s.conditions.Distinct) (left : s.currentState ≠ .empty) (o : Observation)
    (first second : Instant) : (s.advance o first).1.advance o second = s.advance o first := by
  by_cases waits : s.currentState.next o = .initResourceReady
  · have again : ClusterState.next .initResourceReady o = .initResourceReady := by
      have settled := next_next left (o := o)
      rwa [waits] at settled
    rw [advance_of_waits waits, advance_of_waits again, awaitResources_again left]
  · have displays : (s.advance o first).1.Displays o := advance_displays distinct left waits
    have proceeds : (s.advance o first).1.currentState.next o ≠ .initResourceReady := by
      rw [displays.state]
      exact displays.proceeds
    calc (s.advance o first).1.advance o second
        = ((s.advance o first).1.recorded o second).conclude o second := advance_of_proceeds proceeds
      _ = (s.advance o first).1.conclude o second := by rw [displays.recorded]
      _ = ((s.recorded o first).conclude o first).1.conclude o second := by rw [advance_of_proceeds waits]
      _ = (s.recorded o first).conclude o first := conclude_again
      _ = s.advance o first := (advance_of_proceeds waits).symm

/-- A status with an update between other generations, noted by a clock that was ahead. -/
def staleStatus : ClusterStatus :=
  { initial with
    currentState := .running
    conditions := [⟨Condition.running, .unknown, "", "", "not a time", ""⟩,
      ⟨Condition.blueGreenUpdating, .true, "EvacuatingOrigin", "", Rfc3339.format (sampleTime 9), ""⟩]
    blueGreenUpdate := some ⟨"broker-zeroth", "broker-first", Rfc3339.format (sampleTime 9), []⟩ }

/-- An update that begins anew stays as it began when the clock goes back. -/
theorem stale_update_begun_once : ∃ (o : Observation) (begun : ClusterStatus),
    staleStatus.conditions.Distinct ∧ staleStatus.currentState ≠ .empty ∧
    staleStatus.advance o (sampleTime 5) = (begun, .continue) ∧
    begun.blueGreenUpdate = some ⟨"broker-first", "broker-second", Rfc3339.format (sampleTime 5), []⟩ ∧
    begun.advance o (sampleTime 3) = (begun, .continue) := by
  let o := sampleSight "broker:2" "broker-second" true true staleStatus
  have distinct : staleStatus.conditions.Distinct := by
    unfold Conditions.Distinct
    decide
  have left : staleStatus.currentState ≠ .empty := by decide
  have begins : staleStatus.advance o (sampleTime 5) =
      ((staleStatus.recorded o (sampleTime 5)).continueUpdate o (sampleTime 5), .continue) :=
    advance_of_several left rfl (by decide) rfl
  refine ⟨o, _, distinct, left, begins, rfl, ?_⟩
  have again := advance_idempotent distinct left o (sampleTime 5) (sampleTime 3)
  rwa [begins] at again

end ClusterStatus

end BrokerFleet
