import BrokerFleet.Proofs.Job.Unhindered
import BrokerFleet.Proofs.Job.Grounds
import BrokerFleet.Proofs.Json.Statuses
import BrokerFleet.Proofs.Kubernetes.Patches
import BrokerFleet.Proofs.Numerals

/-!
When a deleted job is released. A job that is recorded as processing keeps its finalizer until its run has been told
to stop, or its cluster is not there, or the attempts to stop it have failed as often as they may. A job whose run is
not recorded, or that was recorded as failed meanwhile, is released as it is.
-/

namespace BrokerFleet

open Kubernetes Attempt Rehearsal

/-! ### The course of a job -/

def Call.Stops : Call → Prop
  | .send _ _ _ (.stopRebalance _) => True
  | _ => False

def Call.Sends : Call → Prop
  | .send .. => True
  | _ => False

theorem Call.Stops.sends {c : Call} (stops : c.Stops) : c.Sends := by
  cases c <;> trivial

def Exchange.ShowsNoCluster : Exchange → Prop
  | ⟨.getCluster .., .error _⟩ => True
  | _ => False

theorem Call.Aside.quiet {x : Exchange} (aside : x.call.Aside) : ¬ x.ShowsNoCluster ∧ ¬ x.call.Sends := by
  obtain ⟨c, reply⟩ := x
  cases c <;> first | exact ⟨id, id⟩ | exact aside.elim

/-- Whenever the broker reports on its runs, it lists one. -/
def ListsRun (log : List Exchange) : Prop :=
  ∀ report, Reports log report → report.rebalances ≠ []

namespace Job

variable {j j₀ j₁ k : Job} {pace : JobPace} {log : List Exchange} {passes before after : List (Job × List Exchange)}
  {d : Dialogue (Except Failure Action)} {attempts n : Nat} {retryAt : String}

def IsWritten (k j : Job) (w : Write) : Prop :=
  ∃ object sent, ofJson? object = some j ∧ Store.written w.verb w.body (Store.editsOf w) (some object) = .ok sent ∧
    ofJson? sent = some k

/-- What an exchange of a pass makes of the job that is stored. A write that fails may have been done all the same. -/
inductive Affects (j : Job) : Exchange → Job → Prop where
  | status (ns name : String) (status : JobStatus) (reply : Except ApiError Unit) {known : JobStatus}
      (read : ofJson? (Write.jobStatus name status).body = some known) :
      Affects j ⟨.write ns (.jobStatus name status), reply⟩ { j with status := some known }
  | deferral (ns name : String) (attempts : Nat) (retryAt : String) (reply : Except ApiError Unit) {k : Job}
      (written : k.IsWritten j (.deferStop name attempts retryAt)) :
      Affects j ⟨.write ns (.deferStop name attempts retryAt), reply⟩ k
  | finalizers (ns name : String) (edits : List Json.PatchOp) (reply : Except ApiError Unit)
      (finalizers : Option (List String)) : Affects j ⟨.write ns (.editFinalizers name edits), reply⟩
        { j with metadata := { j.metadata with finalizers } }
  | failed (ns : String) (w : Write) (e : ApiError) : Affects j ⟨.write ns w, .error e⟩ j
  | other {x : Exchange} (unwritten : ∀ ns w, x.call ≠ .write ns w) : Affects j x j

/-- What the exchanges of a pass make of the job that is stored, one after the other. -/
inductive Becomes : Job → List Exchange → Job → Prop where
  | nil (j : Job) : Becomes j [] j
  | cons {j m k : Job} {x : Exchange} {log : List Exchange} (affects : j.Affects x m) (rest : Becomes m log k) :
      Becomes j (x :: log) k

/-- The course of a job: passes over it, each of which may be cut short anywhere, and in between changes of its metadata
that note no attempts to stop it. The list has each pass, with the job that it found. -/
inductive Lives (pace : JobPace) (j : Job) : List (Job × List Exchange) → Job → Prop where
  | here : Lives pace j [] j
  | pass {passes : List (Job × List Exchange)} {m k : Job} {log : List Exchange}
      {d : Dialogue (Except Failure Action)} (lives : Lives pace j passes m) (comes : (m.pass pace).run.Comes log d)
      (becomes : m.Becomes log k) : Lives pace j (passes ++ [(m, log)]) k
  | edited {passes : List (Job × List Exchange)} {m : Job} {metadata : Meta} (lives : Lives pace j passes m)
      (fewer : ({ m with metadata } : Job).stopAttempts ≤ m.stopAttempts) : Lives pace j passes { m with metadata }

/-- As many of the passes failed, in the sense given. -/
def Often (fails : Job → List Exchange → Prop) (passes : List (Job × List Exchange)) (n : Nat) : Prop :=
  ∃ failed : List (Job × List Exchange), failed.Sublist passes ∧ failed.length = n ∧ ∀ p ∈ failed, fails p.1 p.2

theorem IsWritten.deferred {name : String} (written : k.IsWritten j (.deferStop name attempts retryAt)) :
    k = j.deferred attempts retryAt := by
  obtain ⟨object, sent, stored, made, seen⟩ := written
  cases made
  exact of_deferralPatch stored seen

theorem deferred_isWritten {name : String} {members : Members} (stored : ofJson? (.object members) = some j) :
    (j.deferred attempts retryAt).IsWritten j (.deferStop name attempts retryAt) :=
  ⟨_, _, stored, rfl, deferralPatch_reads stored⟩

theorem Affects.recorded {ns name : String} {status : JobStatus} (reply : Except ApiError Unit) :
    j.Affects ⟨.write ns (.jobStatus name status), reply⟩ { j with status := some status } :=
  .status ns name status reply (ofJson?_toJson status)

theorem Lives.trans (first : j₀.Lives pace before j₁) (rest : j₁.Lives pace after j) :
    j₀.Lives pace (before ++ after) j := by
  induction rest with
  | here =>
      rw [List.append_nil]
      exact first
  | pass _ comes becomes ih =>
      rw [← List.append_assoc]
      exact .pass ih comes becomes
  | edited _ fewer ih => exact .edited ih fewer

theorem Becomes.keeps {P : Job → Prop} (becomes : j.Becomes log k) (start : P j)
    (step : ∀ x ∈ log, ∀ m m', P m → m.Affects x m' → P m') : P k := by
  induction becomes with
  | nil j => exact start
  | cons affects _ ih =>
      exact ih (step _ List.mem_cons_self _ _ start affects) fun x member => step x (List.mem_cons_of_mem _ member)

theorem Often.snoc {fails : Job → List Exchange → Prop} (often : Often fails passes n) {p : Job × List Exchange}
    (failed : fails p.1 p.2) : Often fails (passes ++ [p]) (n + 1) := by
  obtain ⟨some, sub, rfl, all⟩ := often
  refine ⟨some ++ [p], sub.append (List.Sublist.refl _), by simp, fun q member => ?_⟩
  rcases List.mem_append.mp member with there | here
  · exact all q there
  · cases List.mem_singleton.mp here
    exact failed

theorem Often.append {fails : Job → List Exchange → Prop} (often : Often fails passes n)
    (more : List (Job × List Exchange)) : Often fails (passes ++ more) n := by
  obtain ⟨some, sub, length, all⟩ := often
  exact ⟨some, sub.trans (List.sublist_append_left ..), length, all⟩

/-! ### What passes leave -/

theorem grounds_of_made (comes : (j.pass pace).run.Comes log d) {x : Exchange} (member : x ∈ log) :
    j.Grounds pace log x.call := by
  obtain ⟨before, after, rfl, grounds⟩ := (j.pass_heeds pace).of_made comes member
  exact Grounds.append _ _ _ grounds

theorem annotation?_deferred : (j.deferred attempts retryAt).metadata.annotation? stopAttemptsKey =
    some (toString attempts) := by
  have differ : stopRetryAtKey ≠ stopAttemptsKey := by decide
  exact (Labels.get?_set_other differ).trans Labels.get?_set

theorem stopAttempts_noted : (j.deferred attempts retryAt).stopAttempts =
    ((some attempts).filter (· ≤ UInt32.size - 1)).getD 0 := by
  unfold stopAttempts
  rw [annotation?_deferred, Option.bind_some, Text.natUpTo?_toString]

theorem stopAttempts_deferred : (j.deferred attempts retryAt).stopAttempts ≤ attempts := by
  rw [stopAttempts_noted, Option.filter_some]
  split
  · exact Nat.le_refl _
  · exact Nat.zero_le _

theorem stopAttempts_after (comes : (j.pass pace).run.Comes log d) (becomes : j.Becomes log k) :
    k.stopAttempts ≤ j.stopAttempts ∨ (j.StopFails log ∧ k.stopAttempts ≤ j.stopAttempts + 1) := by
  refine becomes.keeps (P := fun m => m.stopAttempts ≤ j.stopAttempts ∨
    (j.StopFails log ∧ m.stopAttempts ≤ j.stopAttempts + 1)) (.inl (Nat.le_refl _)) ?_
  intro x member m m' held affects
  have grounds := grounds_of_made comes member
  cases affects with
  | status _ _ _ _ _ => exact held
  | finalizers _ _ _ _ _ => exact held
  | failed _ _ _ => exact held
  | other _ => exact held
  | deferral _ _ _ _ _ written =>
      obtain ⟨-, -, rfl, -, fails⟩ := grounds
      rw [written.deferred]
      exact .inr ⟨fails, Nat.le_trans stopAttempts_deferred j.nextAttempt_le⟩

theorem Lives.stopAttempts (lives : j₀.Lives pace passes j) :
    ∃ n, Often StopFails passes n ∧ j.stopAttempts ≤ j₀.stopAttempts + n := by
  induction lives with
  | here => exact ⟨0, ⟨[], List.nil_sublist _, rfl, List.forall_mem_nil _⟩, Nat.le_refl _⟩
  | pass _ comes becomes ih =>
      obtain ⟨n, often, few⟩ := ih
      rcases stopAttempts_after comes becomes with same | ⟨fails, more⟩
      · exact ⟨n, often.append _, Nat.le_trans same few⟩
      · exact ⟨n + 1, often.snoc fails, by omega⟩
  | edited _ fewer ih =>
      obtain ⟨n, often, few⟩ := ih
      exact ⟨n, often, Nat.le_trans fewer few⟩

theorem Records.processing_or_failed {status : JobStatus} (records : j.Records log status) (lists : ListsRun log) :
    status.phase = some .processing ∨ status.phase = some .failed := by
  cases records with
  | adopted _ _ taken =>
      unfold JobStatus.adopt? at taken
      split at taken <;> cases taken
      exact .inl rfl
  | started _ _ _ _ _ => exact .inl rfl
  | @followed report _ reported now =>
      have listed : report.rebalances.isEmpty = false := by simpa using lists report reported
      unfold JobStatus.follow
      rw [listed]
      exact .inl rfl
  | failed settled =>
      unfold settled? at settled
      split at settled <;> cases settled
      exact .inr rfl

theorem Lives.processing_or_failed (lives : j₁.Lives pace after j) (recorded : j₁.phase? = some .processing)
    (lists : ∀ p ∈ after, ListsRun p.2) : j.phase? = some .processing ∨ j.phase? = some .failed := by
  induction lives with
  | here => exact .inl recorded
  | edited _ _ ih => exact ih lists
  | @pass passes m k log d _ comes becomes ih =>
      have held := ih fun p member => lists p (List.mem_append_left _ member)
      have listed : ListsRun log := lists (m, log) (List.mem_append_right _ List.mem_cons_self)
      refine becomes.keeps (P := fun k => k.phase? = some .processing ∨ k.phase? = some .failed) held ?_
      intro x member k k' held affects
      have grounds := grounds_of_made comes member
      cases affects with
      | deferral _ _ _ _ _ written =>
          rw [written.deferred]
          exact held
      | finalizers _ _ _ _ _ => exact held
      | failed _ _ _ => exact held
      | other _ => exact held
      | status _ _ status _ read =>
          cases (ofJson?_toJson status).symm.trans read
          obtain ⟨-, -, records⟩ := grounds
          exact records.processing_or_failed listed

/-- A processing job is released only once its run was told to stop, or its cluster is not there, or the last attempt to
stop it failed. -/
theorem freed_of_release (comes : (j.pass pace).run.Comes log d) {ns name : String} {index : Nat}
    {reply : Except ApiError Unit}
    (releases : ⟨.write ns (.editFinalizers name (finalizerRemoved index)), reply⟩ ∈ log) : j.Freed pace log := by
  obtain ⟨-, ⟨-, adds⟩ | ⟨_, -, -, freed⟩⟩ := grounds_of_made comes releases
  · have last := congrArg List.getLast? adds
    unfold finalizerAdded finalizerRemoved at last
    split at last <;> cases Option.some.inj last
  · exact freed

theorem Becomes.append {m : Job} {more : List Exchange} (first : j.Becomes log m) (rest : m.Becomes more k) :
    j.Becomes (log ++ more) k := by
  induction first with
  | nil _ => exact rest
  | cons affects _ ih => exact .cons affects (ih rest)

theorem becomes_unwritten (unwritten : ∀ x ∈ log, ∀ ns w, x.call ≠ .write ns w) : j.Becomes log j := by
  induction log with
  | nil => exact .nil j
  | cons x log ih =>
      obtain ⟨first, later⟩ := List.forall_mem_cons.mp unwritten
      exact .cons (.other first) (ih later)

theorem becomes_written {x : Exchange} {rest : List Exchange} (unwritten : ∀ y ∈ log, ∀ ns w, y.call ≠ .write ns w)
    (affects : j.Affects x k) (aside : ∀ y ∈ rest, y.call.Aside) : j.Becomes (log ++ x :: rest) k :=
  (becomes_unwritten unwritten).append
    (.cons affects (becomes_unwritten fun y member => (aside y member).unwritten))

theorem no_stop_of_stage (comes : (j.pass pace).run.Comes log d) (stage : j.stage = .apply) :
    ∀ x ∈ log, ¬ x.call.Stops := by
  intro x member stops
  have grounds := grounds_of_made comes member
  generalize x.call = c at stops grounds
  cases c with
  | send _ _ _ request =>
      cases request with
      | stopRebalance _ =>
          obtain ⟨⟨_, cleans⟩, -⟩ := grounds
          rw [stage] at cleans
          cases cleans
      | _ => exact stops
  | _ => exact stops

/-! ### A sample course -/

def startedStatus : JobStatus := JobStatus.initial.markProcessing (sampleTime 1)

def deletedJob (status : Option JobStatus) : Job :=
  { sampleJob "first" status with
    metadata := { (sampleJob "first" status).metadata with deleted := some (sampleTime 9) } }

def samplePace (stopLimit : Nat) : JobPace := { (default : JobPace) with stopLimit }

def sampleRelease : Exchange := ⟨.write "default" (.editFinalizers "first" (finalizerRemoved 0)), .ok ()⟩

theorem sample_started (pace : JobPace) {reply : Except ApiError Unit} {k : Job}
    (affects : (sampleJob "first" none).Affects ⟨.write "default" (.jobStatus "first" startedStatus), reply⟩ k) :
    ∃ started, (sampleJob "first" none).Lives pace ([] ++ [(sampleJob "first" none, started)]) k ∧
      Takes started (.startRebalance sampleNode sampleOrder) ∧ ∀ x ∈ started, ¬ x.call.Stops := by
  have free : (sampleJob "first" none).rival? [] = none := rfl
  obtain ⟨rest, r, aside, ends⟩ := sampleJob_starts pace (sampleTime 1) free reply
  rw [← List.append_assoc] at ends
  have comes := Dialogue.Yields.comes ends
  refine ⟨_, .pass .here comes (becomes_written ?_ affects aside), ?_, no_stop_of_stage comes rfl⟩
  · simp [looksAround, sampleStart]
  · refine ⟨samplePeer, 18083, ⟨"user", "key"⟩, plainAnswer, _, ?_, plainAnswer_payload _⟩
    simp [sampleStart]

theorem sample_deleted {pace : JobPace} {j : Job} {passes : List (Job × List Exchange)} {status : Option JobStatus}
    (lives : j.Lives pace passes (sampleJob "first" status)) : j.Lives pace passes (deletedJob status) :=
  .edited lives (Nat.le_refl 0)

theorem sample_released (pace : JobPace) {status : Option JobStatus}
    (quiet : (deletedJob status).phase? ≠ some .processing) :
    ((deletedJob status).pass pace).run.Comes [sampleRelease] (.done (.ok .await)) :=
  Dialogue.Yields.comes (pass_releases rfl rfl rfl (cleanUp_idle quiet))

/-! ### When a job is released -/

/-- A job that was recorded as processing, and whose cluster has listed a run in every report since then, is released
only once a run was told to stop, or its cluster is not there, or as many attempts to stop it have failed as may, or a
failure was recorded. -/
theorem released_once_stopped (unattempted : j₀.stopAttempts = 0) (first : j₀.Lives pace before j₁)
    (recorded : j₁.phase? = some .processing) (rest : j₁.Lives pace after j) (lists : ∀ p ∈ after, ListsRun p.2)
    (comes : (j.pass pace).run.Comes log d) {ns name : String} {index : Nat} {reply : Except ApiError Unit}
    (releases : ⟨.write ns (.editFinalizers name (finalizerRemoved index)), reply⟩ ∈ log) :
    (∃ node, Takes log (.stopRebalance node)) ∨ j.Misses log ∨
      (∃ n, Often StopFails (before ++ after ++ [(j, log)]) n ∧ pace.stopLimit ≤ n) ∨ j.phase? = some .failed := by
  rcases rest.processing_or_failed recorded lists with processing | failed
  · obtain ⟨n, often, few⟩ := (first.trans rest).stopAttempts
    cases freed_of_release comes releases with
    | idle quiet => exact absurd processing quiet
    | stopped node taken => exact .inl ⟨node, taken⟩
    | missing gone => exact .inr (.inl gone)
    | abandoned failed much =>
        rw [unattempted] at few
        exact .inr (.inr (.inl ⟨n + 1, often.snoc failed, by omega⟩))
  · exact .inr (.inr (.inr failed))

/-- A job that is recorded as processing and deleted has its run stopped before it is released. -/
theorem stopped_and_released : ∃ (pace : JobPace) (j₀ j₁ j : Job) (before after : List (Job × List Exchange))
    (log : List Exchange) (d : Dialogue (Except Failure Action)) (ns name : String) (index : Nat)
    (reply : Except ApiError Unit), j₀.stopAttempts = 0 ∧ j₀.Lives pace before j₁ ∧ j₁.phase? = some .processing ∧
    j₁.Lives pace after j ∧ (∀ p ∈ after, ListsRun p.2) ∧ (j.pass pace).run.Comes log d ∧
    ⟨.write ns (.editFinalizers name (finalizerRemoved index)), reply⟩ ∈ log ∧
    ((∃ node, Takes log (.stopRebalance node)) ∨ j.Misses log ∨
      (∃ n, Often StopFails (before ++ after ++ [(j, log)]) n ∧ pace.stopLimit ≤ n) ∨ j.phase? = some .failed) := by
  obtain ⟨started, lives, -⟩ := sample_started (samplePace 5) (.recorded (.ok ()))
  have sendable : Net.Target.pathFault? (ManagementRequest.stopRebalance sampleNode).path = none := by decide +kernel
  have due : (deletedJob (some startedStatus)).stopDeferral? (sampleTime 10) = none := rfl
  let told : List Exchange := [⟨.getSecret "default" runningCluster.secretName, .ok sampleSecret⟩,
    ⟨.send samplePeer 18083 ⟨"user", "key"⟩ (.stopRebalance sampleNode), .ok plainAnswer⟩]
  have stops : ((deletedJob (some startedStatus)).stop runningCluster).Ends told (.ok ()) :=
    stop_succeeds rfl credentialsOf_sample coordinator_sample sendable
      (Response.payload_of_document plainAnswer_reads.1 rfl)
  let cleaned : List Exchange :=
    ⟨.clock, sampleTime 10⟩ :: ⟨.getCluster "default" "broker", .ok runningCluster⟩ :: told
  have cleans : ((deletedJob (some startedStatus)).cleanUp (samplePace 5)).Ends cleaned (.ok .await) :=
    cleanUp_stops rfl due rfl stops
  have comes := Dialogue.Yields.comes (pass_releases rfl rfl rfl cleans)
  have rest : (sampleJob "first" (some startedStatus)).Lives (samplePace 5) [] (deletedJob (some startedStatus)) :=
    sample_deleted .here
  have member : sampleRelease ∈ cleaned ++ [sampleRelease] := List.mem_append_right _ List.mem_cons_self
  exact ⟨_, _, _, _, _, _, _, _, _, _, _, _, rfl, lives, rfl, rest, List.forall_mem_nil _, comes, member,
    released_once_stopped rfl lives rfl rest (List.forall_mem_nil _) comes member⟩

/-! ### Jobs that are released while their run goes on -/

/-- Under conditions on the job after its run was started and when it is released, it is released only once its run was
told to stop, or its cluster was not there, or as many passes failed as may. -/
def ReleasedOnceStopped (recorded kept : Job → Prop) (fails : Job → List Exchange → Prop) : Prop :=
  ∀ (pace : JobPace) (j₀ m j₁ j : Job) (before after : List (Job × List Exchange)) (started log : List Exchange)
    (d : Dialogue (Except Failure Action)) (node ns name : String) (order : RebalanceOrder) (index : Nat)
    (reply : Except ApiError Unit),
    j₀.status = none → j₀.stopAttempts = 0 → j₀.Lives pace (before ++ [(m, started)]) j₁ →
    Takes started (.startRebalance node order) → recorded j₁ → j₁.Lives pace after j →
    (∀ p ∈ after, ListsRun p.2) → kept j → (j.pass pace).run.Comes log d →
    ⟨.write ns (.editFinalizers name (finalizerRemoved index)), reply⟩ ∈ log →
    (∃ p ∈ after ++ [(j, log)], ∃ node, Takes p.2 (.stopRebalance node)) ∨
      (∃ p ∈ after ++ [(j, log)], p.1.Misses p.2) ∨
      ∃ n, Often fails (before ++ [(m, started)] ++ after ++ [(j, log)]) n ∧ pace.stopLimit ≤ n

theorem Often.le_length {fails : Job → List Exchange → Prop} (often : Often fails passes n) : n ≤ passes.length := by
  obtain ⟨failed, sub, rfl, -⟩ := often
  exact sub.length_le

theorem of_quiet {Q : Prop} (quiet : ∀ p ∈ passes, ∀ x ∈ p.2, ¬ x.ShowsNoCluster ∧ ¬ x.call.Stops)
    (why : (∃ p ∈ passes, ∃ node, Takes p.2 (.stopRebalance node)) ∨ (∃ p ∈ passes, p.1.Misses p.2) ∨ Q) : Q := by
  rcases why with ⟨p, member, _, _, _, _, _, _, sent, -⟩ | ⟨p, member, _, _, -, looked, -⟩ | holds
  · exact absurd trivial (quiet p member _ sent).2
  · exact absurd trivial (quiet p member _ looked).1
  · exact holds

theorem sampleRelease_quiet : ∀ x ∈ [sampleRelease], ¬ x.ShowsNoCluster ∧ ¬ x.call.Stops :=
  List.forall_mem_singleton.mpr ⟨id, id⟩

theorem released_when_not_recorded {kept : Job → Prop} (keeps : kept (deletedJob none)) :
    ¬ ReleasedOnceStopped (fun _ => True) kept StopFails := by
  intro once
  obtain ⟨started, lives, takes, -⟩ := sample_started (samplePace 5) (.failed _ _ .conflict)
  have verdict := once (samplePace 5) _ _ _ _ [] [] started [sampleRelease] _ sampleNode "default" "first" sampleOrder
    0 (.ok ()) rfl rfl (sample_deleted lives) takes trivial .here (List.forall_mem_nil _) keeps
    (sample_released _ nofun) List.mem_cons_self
  obtain ⟨n, often, many⟩ := of_quiet (List.forall_mem_singleton.mpr sampleRelease_quiet) verdict
  have few : n ≤ 2 := often.le_length
  have many : 5 ≤ n := many
  omega

def openCluster : Cluster :=
  { runningCluster with spec := { runningCluster.spec with edition := .openSource } }

theorem sample_fails (pace : JobPace) : ∃ log d k,
    ((sampleJob "first" (some startedStatus)).pass pace).run.Comes log d ∧
    (sampleJob "first" (some startedStatus)).Becomes log (sampleJob "first" (some k)) ∧ k.phase = some .failed ∧
    ∀ x ∈ log, ¬ x.ShowsNoCluster ∧ ¬ x.call.Sends := by
  have fails : (sampleJob "first" (some startedStatus)).precheck (some openCluster) [] =
      .error (.cannotRebalance "broker" "OpenSource") := rfl
  have differs : (sampleJob "first" (some startedStatus)).status ≠ some (startedStatus.markFailed
      (Failure.cannotRebalance "broker" "OpenSource").message (sampleTime 2)) := differs_of_phase (by decide)
  obtain ⟨rest, r, aside, ends⟩ := pass_fails (j := sampleJob "first" (some startedStatus)) rfl rfl
    (show ApiError.orMissing (.ok openCluster) = .ok (some openCluster) from rfl) [] fails (if_pos rfl) differs
  have comes := Dialogue.Yields.comes ends
  refine ⟨_, _, _, comes, becomes_written ?_ (.recorded _) aside, rfl, ?_⟩
  · simp
  · intro x member
    rcases List.mem_append.mp member with looks | later
    · simp only [List.mem_cons, List.not_mem_nil, or_false] at looks
      rcases looks with rfl | rfl | rfl <;> exact ⟨id, id⟩
    · rcases List.mem_cons.mp later with rfl | told
      · exact ⟨id, id⟩
      · exact (aside x told).quiet

theorem released_when_failed {recorded : Job → Prop} (records : recorded (sampleJob "first" (some startedStatus))) :
    ¬ ReleasedOnceStopped recorded (fun _ => True) StopFails := by
  intro once
  obtain ⟨started, lives, takes, -⟩ := sample_started (samplePace 5) (.recorded (.ok ()))
  obtain ⟨log, d, status, comes, becomes, failed, quiet⟩ := sample_fails (samplePace 5)
  have rest : (sampleJob "first" (some startedStatus)).Lives (samplePace 5)
      ([] ++ [(sampleJob "first" (some startedStatus), log)]) (deletedJob (some status)) :=
    sample_deleted (.pass .here comes becomes)
  have lists : ListsRun log := by
    rintro report ⟨_, _, _, _, _, member, -⟩
    exact absurd trivial (quiet _ member).2
  have quietly : (deletedJob (some status)).phase? ≠ some .processing := by
    intro processing
    cases failed.symm.trans processing
  have released := sample_released (samplePace 5) quietly
  have verdict := once (samplePace 5) _ _ _ _ [] _ started [sampleRelease] _ sampleNode "default" "first" sampleOrder 0
    (.ok ()) rfl rfl lives takes records rest (List.forall_mem_singleton.mpr lists) trivial released List.mem_cons_self
  have calm : ∀ x ∈ log, ¬ x.ShowsNoCluster ∧ ¬ x.call.Stops := fun x member =>
    ⟨(quiet x member).1, fun stops => (quiet x member).2 stops.sends⟩
  obtain ⟨n, often, many⟩ := of_quiet (List.forall_mem_append.mpr ⟨List.forall_mem_singleton.mpr calm,
    List.forall_mem_singleton.mpr sampleRelease_quiet⟩) verdict
  have few : n ≤ 3 := often.le_length
  have many : 5 ≤ n := many
  omega

theorem released_without_calls {recorded kept : Job → Prop} (records : recorded (deletedJob (some startedStatus)))
    (keeps : kept (deletedJob (some startedStatus))) :
    ¬ ReleasedOnceStopped recorded kept fun _ log => ∃ x ∈ log, x.call.Stops := by
  intro once
  obtain ⟨started, lives, takes, calm⟩ := sample_started (samplePace 1) (.recorded (.ok ()))
  have fails : ((deletedJob (some startedStatus)).stop runningCluster).Ends
      [⟨.getSecret "default" runningCluster.secretName, .error .notFound⟩]
      (.error (.access (.noSecret runningCluster.secretName))) := .ask _ (.done _)
  have due : (deletedJob (some startedStatus)).stopDeferral? (sampleTime 10) = none := rfl
  have often : (samplePace 1).stopLimit ≤ (deletedJob (some startedStatus)).nextAttempt := Nat.le_refl 1
  obtain ⟨event, cleans⟩ := cleanUp_gives_up rfl due rfl fails often
  have comes := Dialogue.Yields.comes (pass_releases rfl rfl rfl cleans)
  have quiet : ∀ x ∈ [⟨.clock, sampleTime 10⟩, ⟨.getCluster "default" "broker", .ok runningCluster⟩,
      ⟨.getSecret "default" runningCluster.secretName, .error .notFound⟩, ⟨.tell event, ()⟩, sampleRelease],
      ¬ x.ShowsNoCluster ∧ ¬ x.call.Stops := by
    simp [Exchange.ShowsNoCluster, Call.Stops, sampleRelease]
  have verdict := once (samplePace 1) _ _ _ _ [] [] started _ _ sampleNode "default" "first" sampleOrder 0 (.ok ()) rfl
    rfl (sample_deleted lives) takes records .here (List.forall_mem_nil _) keeps comes
    (List.mem_append_right _ List.mem_cons_self)
  obtain ⟨n, ⟨failed, sub, rfl, all⟩, many⟩ := of_quiet (List.forall_mem_singleton.mpr quiet) verdict
  cases failed with
  | nil => exact absurd many (by decide)
  | cons p failed =>
      obtain ⟨x, there, stops⟩ := all p List.mem_cons_self
      rcases List.mem_cons.mp (sub.subset List.mem_cons_self) with rfl | last
      · exact calm x there stops
      · cases List.mem_singleton.mp last
        exact (quiet x there).2 stops

/-- The start of the run has to be recorded, and no failure after it; and attempts to stop a run count that made no
call. -/
theorem released_with_run_going_on :
    ¬ ReleasedOnceStopped (fun _ => True) (fun j => j.phase? ≠ some .failed) StopFails ∧
    ¬ ReleasedOnceStopped (fun j => j.phase? = some .processing) (fun _ => True) StopFails ∧
    ¬ ReleasedOnceStopped (fun j => j.phase? = some .processing) (fun j => j.phase? ≠ some .failed)
      fun _ log => ∃ x ∈ log, x.call.Stops :=
  ⟨released_when_not_recorded nofun, released_when_failed rfl, released_without_calls rfl nofun⟩

end Job

end BrokerFleet
