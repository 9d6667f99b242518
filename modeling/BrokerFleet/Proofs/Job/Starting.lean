import BrokerFleet.Proofs.Job.LifeCycle

/-!
When a run is started. A pass gives the order once at most, and only after it was shown that the job may start and that
the broker lists no run. So a run whose start was not recorded is not started again while the broker lists it, but taken
over as it is listed.
-/

namespace BrokerFleet

open Kubernetes Attempt

def Call.Starts : Call → Prop
  | .send _ _ _ (.startRebalance ..) => True
  | _ => False

theorem Call.Starts.turn? {c : Call} (starts : c.Starts) : c.turn? = some 1 := by
  unfold Starts at starts
  split at starts
  · rfl
  · exact starts.elim

namespace Job

variable {j j₀ : Job} {pace : JobPace} {log before after : List Exchange} {passes : List (Job × List Exchange)}
  {d : Dialogue (Except Failure Action)} {x : Exchange} {status : JobStatus} {report : LoadReport}

/-- What has to be shown before the run of a job is started: its cluster, which can rebalance and is running, the other
jobs, none of which is processing on that cluster, and a report that lists no run. -/
structure MayStart (j : Job) (log : List Exchange) : Prop where
  unstarted : j.phase? = none
  shown : ∃ ns c jobs, j.placed = .ok ns ∧
    ⟨.getCluster ns j.spec.instanceName, .ok c⟩ ∈ log ∧ c.capability.supportsEvacuation = true ∧
    c.status.any (·.conditions.holds Condition.running) = true ∧ ⟨.listJobs ns, .ok jobs⟩ ∈ log ∧
    ∀ other ∈ jobs, other.spec.instanceName = j.spec.instanceName → other.phase? = some .processing →
      other.name = j.name
  idle : ∃ report, Reports log report ∧ report.rebalances = []

theorem Decides.mayStart (decided : j.Decides log .start) (reported : Reports log report)
    (idle : report.rebalances = []) : j.MayStart log := by
  obtain ⟨ns, c, jobs, place, listed, ⟨ns', place', shown⟩, starts⟩ := decided
  cases place.symm.trans place'
  obtain ⟨unstarted, supports, free, running⟩ := precheck_start starts
  exact {
    unstarted
    shown := ⟨ns, c, jobs, place, shown, supports, running, listed, fun _ => rival?_none free⟩
    idle := ⟨report, reported, idle⟩ }

theorem mayStart_of_starts (comes : (j.pass pace).run.Comes (before ++ x :: after) d) (starts : x.call.Starts) :
    j.MayStart before := by
  have grounds := (j.pass_heeds pace).of_split comes
  unfold Call.Starts at starts
  split at starts
  · next orders =>
    rw [orders] at grounds
    obtain ⟨-, decided, report, reported, idle⟩ := grounds
    exact decided.mayStart reported idle
  · exact starts.elim

theorem not_starts_of_listed (comes : (j.pass pace).run.Comes log d) (reported : Reports log report)
    (listed : report.rebalances ≠ []) : ∀ x ∈ log, ¬ x.call.Starts := by
  intro x member starts
  obtain ⟨before, after, rfl⟩ := List.append_of_mem member
  obtain ⟨other, shown, idle⟩ := (mayStart_of_starts comes starts).idle
  cases reports_unique comes reported (shown.append _)
  exact listed idle

theorem adopted_of_listed (comes : (j.pass pace).run.Comes log d) (reported : Reports log report)
    (listed : report.rebalances ≠ []) (unstarted : j.phase? = none) (records : status ∈ recorded log) :
    status.phase = some .processing ∧ status.rebalanceStates = report.rebalances := by
  obtain ⟨-, idle⟩ := recorded_due comes records
  cases grounds_of_recorded comes records with
  | adopted _ shown taken =>
      cases reports_unique comes reported shown
      obtain ⟨-, rfl⟩ := JobStatus.adopt?_eq_some.mp taken
      exact ⟨rfl, rfl⟩
  | started _ shown none _ _ =>
      cases reports_unique comes reported shown
      exact absurd none listed
  | followed decided _ _ => cases unstarted.symm.trans decided.processing
  | failed settled =>
      obtain ⟨-, rfl⟩ := settled?_eq_some.mp settled
      exact absurd (idle rfl report reported) listed

theorem Lives.made (lives : j₀.Lives pace passes j) :
    ∀ p ∈ passes, ∃ d, (p.1.pass pace).run.Comes p.2 d := by
  induction lives with
  | here => exact List.forall_mem_nil _
  | edited _ _ ih => exact ih
  | pass _ comes _ ih =>
      intro p member
      rcases List.mem_append.mp member with earlier | last
      · exact ih p earlier
      · cases List.mem_singleton.mp last
        exact ⟨_, comes⟩

/-- In the course of a job a pass starts a run once at most, and only after it was shown that the job may start. A pass
in which the broker lists a run, be it one whose start was not recorded, starts none, and what it records for a job
without a phase is that run as it is listed. -/
theorem started_only_when_idle (lives : j₀.Lives pace passes j) {p : Job × List Exchange} (pass : p ∈ passes) :
    (∀ before x after, p.2 = before ++ x :: after → x.call.Starts →
      p.1.MayStart before ∧ ∀ y ∈ before ++ after, ¬ y.call.Starts) ∧
    ∀ report, Reports p.2 report → report.rebalances ≠ [] →
      (∀ x ∈ p.2, ¬ x.call.Starts) ∧
      (p.1.phase? = none → ∀ status ∈ recorded p.2,
        status.phase = some .processing ∧ status.rebalanceStates = report.rebalances) := by
  obtain ⟨d, comes⟩ := lives.made p pass
  constructor
  · intro before x after made starts
    rw [made] at comes
    refine ⟨mayStart_of_starts comes starts, fun y member again => ?_⟩
    exact turn_once comes starts.turn? y member again.turn?
  · intro report reported listed
    refine ⟨not_starts_of_listed comes reported listed, fun unstarted status records => ?_⟩
    exact adopted_of_listed comes reported listed unstarted records

theorem sample_adopted {j₀ : Job} (lives : j₀.Lives pace passes (sampleJob "first" none)) :
    ∃ adopted status, j₀.Lives pace (passes ++ [(sampleJob "first" none, adopted)]) (sampleJob "first" (some status)) ∧
      Reports adopted ⟨[], [sampleRun]⟩ ∧ status ∈ recorded adopted := by
  have free : (sampleJob "first" none).rival? [] = none := rfl
  obtain ⟨rest, r, status, -, aside, ends⟩ := sampleJob_adopts pace (sampleTime 2) free (.ok ())
  rw [← List.append_assoc] at ends
  have comes := Dialogue.Yields.comes ends
  refine ⟨_, status, lives.pass comes (becomes_written ?_ (.recorded _) aside), ?_, ?_⟩
  · simp [looksAround, sampleTakeover]
  · refine ⟨samplePeer, 18083, ⟨"user", "key"⟩, busyReport, _, ?_,
      Response.payload_of_document busyReport_reads.1 rfl, Response.decode_of_read busyReport_reads.2⟩
    simp [sampleTakeover]
  · exact List.mem_filterMap.mpr ⟨_, List.mem_append_right _ List.mem_cons_self, rfl⟩

/-- A run is started, its start is not recorded, and the next pass takes over the run that the broker lists. -/
theorem taken_over_when_not_recorded : ∃ (pace : JobPace) (j₀ j₁ j : Job) (started adopted : List Exchange)
    (status : JobStatus), j₀.Lives pace [(j₀, started), (j₁, adopted)] j ∧
    Takes started (.startRebalance sampleNode sampleOrder) ∧ j₁.phase? = none ∧
    Reports adopted ⟨[], [sampleRun]⟩ ∧ status ∈ recorded adopted ∧ j.status = some status ∧
    (∀ before x after, adopted = before ++ x :: after → x.call.Starts →
      j₁.MayStart before ∧ ∀ y ∈ before ++ after, ¬ y.call.Starts) ∧
    ∀ report, Reports adopted report → report.rebalances ≠ [] →
      (∀ x ∈ adopted, ¬ x.call.Starts) ∧
      (j₁.phase? = none → ∀ status ∈ recorded adopted,
        status.phase = some .processing ∧ status.rebalanceStates = report.rebalances) := by
  obtain ⟨started, unrecorded, takes, -⟩ := sample_started (samplePace 5) (.failed _ _ .conflict)
  obtain ⟨adopted, status, lives, reported, records⟩ := sample_adopted unrecorded
  exact ⟨_, _, _, _, _, _, status, lives, takes, rfl, reported, records, rfl,
    started_only_when_idle lives (List.mem_append_right _ List.mem_cons_self)⟩

end Job

end BrokerFleet
