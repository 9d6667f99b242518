import BrokerFleet.Proofs.Conditions
import BrokerFleet.Proofs.Job.Release
import BrokerFleet.Proofs.Job.Turns

/-!
The life cycle of a job. A pass records one status at most, and only of a job that is not over; the parts of what is
stored, its phase, its times, its conditions and the states of its run, agree after every pass, wherever it ends.
-/

namespace BrokerFleet

open Kubernetes

/-- The moves of the phase of a job. -/
inductive RebalancePhase.Moves : Option RebalancePhase → Option RebalancePhase → Prop where
  | starts : Moves none (some .processing)
  | completes : Moves (some .processing) (some .completed)
  | refused : Moves none (some .failed)
  | fails : Moves (some .processing) (some .failed)

namespace JobStatus

/-- The statuses that may be recorded after another one. -/
inductive Advances (s : JobStatus) : JobStatus → Prop where
  | started (idle : s.phase = none) (states : List RebalanceState) (now : Instant) :
      Advances s { s.markProcessing now with rebalanceStates := states }
  | followed (processing : s.phase = some .processing) (states : List RebalanceState) (now : Instant) :
      Advances s (s.follow states now).1
  | failed (going : s.phase = none ∨ s.phase = some .processing) (text : String) (now : Instant) :
      Advances s (s.markFailed text now)

/-- The parts of a status agree with its phase, and with whether its job has ever been processing. -/
structure Coherent (s : JobStatus) (ran : Prop) : Prop where
  distinct : s.conditions.Distinct
  fresh : s.phase = none → ¬ ran
  going : s.phase = some .processing → ran
  startedAt : s.startedAt.isSome ↔ ran
  completedAt : s.completedAt.isSome ↔ s.phase = some .completed
  processing : s.conditions.holds Condition.processing = true ↔ ran
  completed : s.conditions.holds Condition.completed = true ↔ s.phase = some .completed
  failed : s.conditions.holds Condition.failed = true ↔ s.phase = some .failed
  cleared : s.phase = some .completed → s.rebalanceStates = []

variable {s t : JobStatus} {ran : Prop}

theorem coherent_initial (never : ¬ ran) : initial.Coherent ran where
  distinct := List.nodup_nil
  fresh _ := never
  going := nofun
  startedAt := iff_of_false nofun never
  completedAt := iff_of_false nofun nofun
  processing := iff_of_false nofun never
  completed := iff_of_false nofun nofun
  failed := iff_of_false nofun nofun
  cleared := nofun

theorem Coherent.stays (coherent : s.Coherent ran) : s.Coherent (ran ∨ s.phase = some .processing) := by
  rwa [or_iff_left_of_imp coherent.going]

theorem Coherent.withStates (coherent : s.Coherent ran) (unfinished : s.phase ≠ some .completed)
    (states : List RebalanceState) : Coherent { s with rebalanceStates := states } ran :=
  { coherent with cleared := fun finished => absurd finished unfinished }

theorem Coherent.markProcessing (coherent : s.Coherent ran) (idle : s.phase = none) (now : Instant) {runs : Prop}
    (started : runs) : (s.markProcessing now).Coherent runs := by
  have unfinished : s.phase ≠ some .completed := by simp [idle]
  have unfailed : s.phase ≠ some .failed := by simp [idle]
  exact {
    distinct := Conditions.distinct_set coherent.distinct
    fresh := nofun
    going := fun _ => started
    startedAt := iff_of_true rfl started
    completedAt := coherent.completedAt.trans (iff_of_false unfinished nofun)
    processing := iff_of_true (Conditions.holds_set_new coherent.distinct) started
    completed := (Conditions.holds_set_new_other coherent.distinct (by decide)).trans
      (coherent.completed.trans (iff_of_false unfinished nofun))
    failed := (Conditions.holds_set_new_other coherent.distinct (by decide)).trans
      (coherent.failed.trans (iff_of_false unfailed nofun))
    cleared := nofun }

theorem Coherent.markFailed (coherent : s.Coherent ran) (going : s.phase = none ∨ s.phase = some .processing)
    (text : String) (now : Instant) : (s.markFailed text now).Coherent ran := by
  have unfinished : s.phase ≠ some .completed := by rcases going with same | same <;> simp [same]
  exact {
    distinct := Conditions.distinct_set coherent.distinct
    fresh := nofun
    going := nofun
    startedAt := coherent.startedAt
    completedAt := coherent.completedAt.trans (iff_of_false unfinished nofun)
    processing := (Conditions.holds_set_new_other coherent.distinct (by decide)).trans coherent.processing
    completed := (Conditions.holds_set_new_other coherent.distinct (by decide)).trans
      (coherent.completed.trans (iff_of_false unfinished nofun))
    failed := iff_of_true (Conditions.holds_set_new coherent.distinct) rfl
    cleared := nofun }

theorem Coherent.follow (coherent : s.Coherent ran) (processing : s.phase = some .processing)
    (states : List RebalanceState) (now : Instant) : (s.follow states now).1.Coherent ran := by
  have unfailed : s.phase ≠ some .failed := by simp [processing]
  unfold JobStatus.follow
  split
  · exact {
      distinct := Conditions.distinct_set coherent.distinct
      fresh := nofun
      going := nofun
      startedAt := coherent.startedAt
      completedAt := iff_of_true rfl rfl
      processing := (Conditions.holds_set_new_other coherent.distinct (by decide)).trans coherent.processing
      completed := iff_of_true (Conditions.holds_set_new coherent.distinct) rfl
      failed := (Conditions.holds_set_new_other coherent.distinct (by decide)).trans
        (coherent.failed.trans (iff_of_false unfailed nofun))
      cleared := fun _ => rfl }
  · rw [← processing]
    exact coherent.withStates (by simp [processing]) states

theorem Coherent.advance (coherent : s.Coherent ran) (advances : s.Advances t) :
    t.Coherent (ran ∨ t.phase = some .processing) := by
  cases advances with
  | started idle states now =>
      exact (coherent.markProcessing idle now (.inr rfl)).withStates nofun states
  | followed processing states now =>
      rw [or_iff_left_of_imp fun _ => coherent.going processing]
      exact coherent.follow processing states now
  | failed going text now =>
      rw [or_iff_left_of_imp nofun]
      exact coherent.markFailed going text now

theorem Advances.moves (advances : s.Advances t) : t.phase = s.phase ∨ RebalancePhase.Moves s.phase t.phase := by
  cases advances with
  | started idle states now =>
      rw [idle]
      exact .inr .starts
  | followed processing states now =>
      rw [processing]
      unfold follow
      split
      · exact .inr .completes
      · exact .inl rfl
  | failed going text now =>
      rcases going with idle | processing
      · rw [idle]
        exact .inr .refused
      · rw [processing]
        exact .inr .fails

theorem Advances.startedAt (advances : s.Advances t) (coherent : s.Coherent ran) {time : String}
    (noted : s.startedAt = some time) : t.startedAt = some time := by
  cases advances with
  | started idle states now =>
      have never := coherent.fresh idle
      exact absurd (coherent.startedAt.mp (Option.isSome_of_eq_some noted)) never
  | followed processing states now =>
      unfold follow
      split <;> exact noted
  | failed going text now => exact noted

end JobStatus

namespace Job

variable {j j₀ j₁ k : Job} {pace : JobPace} {log : List Exchange} {passes before after : List (Job × List Exchange)}
  {d : Dialogue (Except Failure Action)} {status : JobStatus}

/-- The job is processing, or was when a pass found it. -/
def EverProcessing (passes : List (Job × List Exchange)) (j : Job) : Prop :=
  (∃ p ∈ passes, p.1.phase? = some .processing) ∨ j.phase? = some .processing

theorem everProcessing_snoc {m : Job} :
    EverProcessing (passes ++ [(m, log)]) k ↔ EverProcessing passes m ∨ k.phase? = some .processing := by
  simp [EverProcessing, or_and_right, exists_or]

theorem phase?_eq (j : Job) : j.phase? = j.currentStatus.phase := by
  unfold phase? currentStatus
  cases j.status <;> rfl

theorem Decides.unstarted (decided : j.Decides log .start) : j.phase? = none := by
  obtain ⟨_, _, _, -, -, -, starts⟩ := decided
  exact (precheck_start starts).1

theorem Decides.processing (decided : j.Decides log .poll) : j.phase? = some .processing := by
  obtain ⟨_, _, _, -, -, -, polls⟩ := decided
  exact precheck_poll polls

theorem grounds_of_recorded (comes : (j.pass pace).run.Comes log d) (records : status ∈ recorded log) :
    j.Records log status := by
  obtain ⟨x, member, same⟩ := List.mem_filterMap.mp records
  have grounds := grounds_of_made comes member
  unfold Call.status? at same
  split at same
  · next writes =>
    cases same
    rw [writes] at grounds
    exact grounds.2.2
  · cases same

theorem advances_of_recorded (comes : (j.pass pace).run.Comes log d) (records : status ∈ recorded log) :
    j.currentStatus.Advances status := by
  obtain ⟨going, -⟩ := recorded_due comes records
  have phase := phase_of_going going
  have current := phase?_eq j
  cases grounds_of_recorded comes records with
  | adopted decided _ taken =>
      obtain ⟨-, rfl⟩ := JobStatus.adopt?_eq_some.mp taken
      exact .started (current.symm.trans decided.unstarted) _ _
  | started decided _ _ _ now => exact .started (current.symm.trans decided.unstarted) _ now
  | followed decided _ now => exact .followed (current.symm.trans decided.processing) _ now
  | failed settled =>
      obtain ⟨-, rfl⟩ := settled?_eq_some.mp settled
      rw [current] at phase
      exact .failed phase _ _

theorem Becomes.status_cases (becomes : j.Becomes log k) :
    k.status = j.status ∨ ∃ status ∈ recorded log, k.status = some status := by
  refine becomes.keeps (P := fun m => m.status = j.status ∨ ∃ status ∈ recorded log, m.status = some status)
    (.inl rfl) ?_
  intro x member m m' held affects
  cases affects with
  | status _ _ status _ read =>
      cases (ofJson?_toJson status).symm.trans read
      exact .inr ⟨status, List.mem_filterMap.mpr ⟨_, member, rfl⟩, rfl⟩
  | deferral _ _ _ _ _ written =>
      rw [written.deferred]
      exact held
  | finalizers _ _ _ _ _ => exact held
  | failed _ _ _ => exact held
  | other _ => exact held

theorem Becomes.advances (becomes : j.Becomes log k) (comes : (j.pass pace).run.Comes log d) :
    k.currentStatus = j.currentStatus ∨ j.currentStatus.Advances k.currentStatus := by
  rcases becomes.status_cases with same | ⟨status, records, same⟩
  · exact .inl (congrArg (·.getD .initial) same)
  · have current : k.currentStatus = status := congrArg (·.getD .initial) same
    rw [current]
    exact .inr (advances_of_recorded comes records)

theorem Becomes.moves (becomes : j.Becomes log k) (comes : (j.pass pace).run.Comes log d) :
    k.phase? = j.phase? ∨ RebalancePhase.Moves j.phase? k.phase? := by
  rw [phase?_eq, phase?_eq]
  rcases becomes.advances comes with same | advances
  · exact .inl (congrArg JobStatus.phase same)
  · exact advances.moves

theorem Lives.coherent (fresh : j₀.status = none) (lives : j₀.Lives pace passes j) :
    j.currentStatus.Coherent (EverProcessing passes j) := by
  induction lives with
  | here =>
      have never : ¬ EverProcessing [] j₀ := by simp [EverProcessing, phase?, fresh]
      have initial : j₀.currentStatus = .initial := congrArg (·.getD .initial) fresh
      rw [initial]
      exact JobStatus.coherent_initial never
  | edited _ _ ih => exact ih
  | pass _ comes becomes ih =>
      rw [everProcessing_snoc, phase?_eq]
      rcases becomes.advances comes with same | advances
      · rw [same]
        exact ih.stays
      · exact ih.advance advances

theorem Lives.status_of_over (ended : j₁.phase?.any RebalancePhase.isTerminal = true) (lives : j₁.Lives pace passes j) :
    j.status = j₁.status := by
  induction lives with
  | here => rfl
  | edited _ _ ih => exact ih
  | pass _ comes becomes ih =>
      rcases becomes.status_cases with same | ⟨status, records, -⟩
      · exact same.trans ih
      · obtain ⟨going, -⟩ := recorded_due comes records
        have phase : _ = j₁.phase? := congrArg (·.bind (·.phase)) ih
        rw [← phase] at ended
        exact absurd (ended.symm.trans going) nofun

theorem Lives.startedAt (fresh : j₀.status = none) (first : j₀.Lives pace before j₁) (rest : j₁.Lives pace after j)
    {time : String} (noted : j₁.currentStatus.startedAt = some time) : j.currentStatus.startedAt = some time := by
  induction rest with
  | here => exact noted
  | edited _ _ ih => exact ih
  | pass lives comes becomes ih =>
      rcases becomes.advances comes with same | advances
      · rw [same]
        exact ih
      -- a start that was noted rules out that the job is entered as processing again
      · exact advances.startedAt ((first.trans lives).coherent fresh) ih

/-- The life cycle of a job that starts with no status. The parts of its status agree; the status of a job that is over
stays, and the time of its start; and a pass, wherever it ends, records one status at most and moves the phase from none
to processing or failed, or from processing to completed or failed. -/
theorem life_cycle (fresh : j₀.status = none) (first : j₀.Lives pace before j₁) (rest : j₁.Lives pace after j) :
    j.currentStatus.Coherent (EverProcessing (before ++ after) j) ∧
    (j₁.phase?.any RebalancePhase.isTerminal = true → j.status = j₁.status) ∧
    (∀ time, j₁.currentStatus.startedAt = some time → j.currentStatus.startedAt = some time) ∧
    ∀ log d k, (j.pass pace).run.Comes log d → j.Becomes log k →
      (recorded log).length ≤ 1 ∧ (k.phase? = j.phase? ∨ RebalancePhase.Moves j.phase? k.phase?) := by
  refine ⟨(first.trans rest).coherent fresh, rest.status_of_over, fun time noted => ?_, fun log d k comes becomes => ?_⟩
  · exact first.startedAt fresh rest noted
  · exact ⟨recorded_once comes, becomes.moves comes⟩

/-- The run of a job is started, and then its cluster is found in an edition that cannot rebalance. -/
theorem started_and_failed : ∃ (pace : JobPace) (j₀ j₁ j : Job) (before after : List (Job × List Exchange)),
    j₀.status = none ∧ j₀.Lives pace before j₁ ∧ j₁.Lives pace after j ∧ j₁.phase? = some .processing ∧
    j.phase? = some .failed ∧ j.currentStatus.Coherent (EverProcessing (before ++ after) j) ∧
    (j₁.phase?.any RebalancePhase.isTerminal = true → j.status = j₁.status) ∧
    (∀ time, j₁.currentStatus.startedAt = some time → j.currentStatus.startedAt = some time) ∧
    ∀ log d k, (j.pass pace).run.Comes log d → j.Becomes log k →
      (recorded log).length ≤ 1 ∧ (k.phase? = j.phase? ∨ RebalancePhase.Moves j.phase? k.phase?) := by
  obtain ⟨started, lives, -⟩ := sample_started (samplePace 5) (.recorded (.ok ()))
  obtain ⟨log, d, status, comes, becomes, failed, -⟩ := sample_fails (samplePace 5)
  have rest := Lives.pass .here comes becomes
  exact ⟨_, _, _, _, _, _, rfl, lives, rest, rfl, failed, life_cycle rfl lives rest⟩

end Job

end BrokerFleet
