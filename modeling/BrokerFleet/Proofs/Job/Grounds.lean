import BrokerFleet.Pass.Job
import BrokerFleet.Proofs.Heeding
import BrokerFleet.Proofs.Pass.Evacuation

/-!
On which grounds a pass over a job acts. What it writes and which orders it gives rests on what it was shown in the
same pass: a run is started only where the job may start and the broker reports none, a status is recorded only as
the report or a failure has it, and a deleted job is released only once it is freed.
-/

namespace BrokerFleet

open Kubernetes Attempt

def Reports (log : List Exchange) (report : LoadReport) : Prop :=
  ∃ peer port credentials response document,
    ⟨.send peer port credentials .loadStatus, .ok response⟩ ∈ log ∧
    response.payload ManagementRequest.loadStatus.path = .ok document ∧
    Response.decode ManagementRequest.loadStatus.path LoadReport.ofReport? document = .ok report

def Takes (log : List Exchange) (request : ManagementRequest) : Prop :=
  ∃ peer port credentials response document,
    ⟨.send peer port credentials request, .ok response⟩ ∈ log ∧ response.payload request.path = .ok document

namespace Job

def Sees (j : Job) (log : List Exchange) (c : Cluster) : Prop :=
  ∃ ns, j.placed = .ok ns ∧ ⟨.getCluster ns j.spec.instanceName, .ok c⟩ ∈ log

def Misses (j : Job) (log : List Exchange) : Prop :=
  ∃ ns e, j.placed = .ok ns ∧ ⟨.getCluster ns j.spec.instanceName, .error e⟩ ∈ log ∧ e.isNotFound = true

def Decides (j : Job) (log : List Exchange) (step : Precheck) : Prop :=
  ∃ ns c jobs, j.placed = .ok ns ∧ ⟨.listJobs ns, .ok jobs⟩ ∈ log ∧ j.Sees log c ∧
    j.precheck (some c) jobs = .ok step

def StopFails (j : Job) (log : List Exchange) : Prop :=
  ∃ before part after c e, log = before ++ part ++ after ∧ j.Sees before c ∧ (j.stop c).Ends part (.error e)

/-- The statuses that may be recorded for a job. -/
inductive Records (j : Job) (log : List Exchange) : JobStatus → Prop where
  | adopted {report : LoadReport} {status : JobStatus} {now : Instant} (decided : j.Decides log .start)
      (reported : Reports log report) (taken : j.currentStatus.adopt? report.rebalances now = some status) :
      Records j log status
  | started {report : LoadReport} {node : String} {order : RebalanceOrder} (decided : j.Decides log .start)
      (reported : Reports log report) (idle : report.rebalances = [])
      (ordered : Takes log (.startRebalance node order)) (now : Instant) :
      Records j log (j.currentStatus.markProcessing now)
  | followed {report : LoadReport} (decided : j.Decides log .poll) (reported : Reports log report) (now : Instant) :
      Records j log (j.currentStatus.follow report.rebalances now).1
  | failed {e : Failure} {now : Instant} {status : JobStatus} (settled : j.settled? e now = some status) :
      Records j log status

/-- Nothing holds a deleted job any more. -/
inductive Freed (j : Job) (pace : JobPace) (log : List Exchange) : Prop where
  | idle (quiet : j.phase? ≠ some .processing)
  | missing (gone : j.Misses log)
  | stopped (node : String) (taken : Takes log (.stopRebalance node))
  | abandoned (failed : j.StopFails log) (often : pace.stopLimit ≤ j.stopAttempts + 1)

def Grounds (j : Job) (pace : JobPace) (log : List Exchange) : Call → Prop
  | .write _ (.jobStatus name status) => name = j.name ∧ j.stage = .apply ∧ j.Records log status
  | .write _ (.deferStop name attempts _) => name = j.name ∧ (∃ index, j.stage = .cleanUp index) ∧
      attempts = j.nextAttempt ∧ attempts < pace.stopLimit ∧ j.StopFails log
  | .write _ (.editFinalizers name edits) => j.metadata.name = some name ∧
      (j.stage = .addFinalizer ∧ edits = j.finalizerAdded ∨
        ∃ index, j.stage = .cleanUp index ∧ edits = finalizerRemoved index ∧ j.Freed pace log)
  | .write .. => False
  | .send _ _ _ (.startRebalance ..) =>
      j.stage = .apply ∧ j.Decides log .start ∧ ∃ report, Reports log report ∧ report.rebalances = []
  | .send _ _ _ (.stopRebalance _) =>
      (∃ index, j.stage = .cleanUp index) ∧ j.phase? = some .processing ∧ ∃ c, j.Sees log c
  | .send _ _ _ .loadStatus => j.stage = .apply
  | .send .. => False
  | .listSets .. => False
  | .listPods .. => False
  | .freshKey => False
  | .find .. => False
  | _ => True

end Job

namespace Job

theorem nextAttempt_le (j : Job) : j.nextAttempt ≤ j.stopAttempts + 1 := by
  unfold nextAttempt
  rw [UInt32.toNat_add, UInt32.toNat_ofNat', UInt32.toNat_one, Nat.mod_add_mod]
  exact Nat.mod_le ..

theorem nextAttempt_of_lt {j : Job} (fits : j.stopAttempts + 1 < UInt32.size) : j.nextAttempt = j.stopAttempts + 1 := by
  unfold nextAttempt
  rw [UInt32.toNat_add, UInt32.toNat_ofNat', UInt32.toNat_one, Nat.mod_add_mod]
  exact Nat.mod_eq_of_lt fits

end Job

namespace JobStatus

variable {s status : JobStatus} {states : List RebalanceState} {now : Instant}

theorem adopt?_eq_none : s.adopt? states now = none ↔ states = [] := by
  unfold adopt?
  cases states <;> simp

theorem adopt?_eq_some : s.adopt? states now = some status ↔
    states ≠ [] ∧ status = { s.markProcessing now with rebalanceStates := states } := by
  unfold adopt?
  cases states <;> simp [eq_comm]

end JobStatus

/-! ### Grounds stay while more is heard -/

variable {log : List Exchange} {report : LoadReport} {request : ManagementRequest}

theorem Reports.append (h : Reports log report) (later : List Exchange) : Reports (log ++ later) report := by
  obtain ⟨peer, port, credentials, response, document, member, reads⟩ := h
  exact ⟨peer, port, credentials, response, document, List.mem_append_left _ member, reads⟩

theorem Reports.after (h : Reports log report) (before : List Exchange) : Reports (before ++ log) report := by
  obtain ⟨peer, port, credentials, response, document, member, reads⟩ := h
  exact ⟨peer, port, credentials, response, document, List.mem_append_right _ member, reads⟩

theorem Takes.append (h : Takes log request) (later : List Exchange) : Takes (log ++ later) request := by
  obtain ⟨peer, port, credentials, response, document, member, taken⟩ := h
  exact ⟨peer, port, credentials, response, document, List.mem_append_left _ member, taken⟩

theorem Takes.after (h : Takes log request) (before : List Exchange) : Takes (before ++ log) request := by
  obtain ⟨peer, port, credentials, response, document, member, taken⟩ := h
  exact ⟨peer, port, credentials, response, document, List.mem_append_right _ member, taken⟩

namespace Job

variable {j : Job} {pace : JobPace} {c : Cluster} {client : ManagementClient} {now : Instant} {status : JobStatus}
  {step : Precheck}

theorem Sees.append (h : j.Sees log c) (later : List Exchange) : j.Sees (log ++ later) c := by
  obtain ⟨ns, place, member⟩ := h
  exact ⟨ns, place, List.mem_append_left _ member⟩

theorem Misses.append (h : j.Misses log) (later : List Exchange) : j.Misses (log ++ later) := by
  obtain ⟨ns, e, place, member, missing⟩ := h
  exact ⟨ns, e, place, List.mem_append_left _ member, missing⟩

theorem Decides.append (h : j.Decides log step) (later : List Exchange) : j.Decides (log ++ later) step := by
  obtain ⟨ns, c, jobs, place, member, sees, decided⟩ := h
  exact ⟨ns, c, jobs, place, List.mem_append_left _ member, sees.append later, decided⟩

theorem StopFails.append (h : j.StopFails log) (later : List Exchange) : j.StopFails (log ++ later) := by
  obtain ⟨before, part, after, c, e, rfl, sees, fails⟩ := h
  exact ⟨before, part, after ++ later, c, e, List.append_assoc .., sees, fails⟩

theorem Records.append (h : j.Records log status) (later : List Exchange) : j.Records (log ++ later) status := by
  cases h with
  | adopted decided reported taken => exact .adopted (decided.append later) (reported.append later) taken
  | started decided reported idle ordered now =>
      exact .started (decided.append later) (reported.append later) idle (ordered.append later) now
  | followed decided reported now => exact .followed (decided.append later) (reported.append later) now
  | failed settled => exact .failed settled

theorem Freed.append (h : j.Freed pace log) (later : List Exchange) : j.Freed pace (log ++ later) := by
  cases h with
  | idle quiet => exact .idle quiet
  | missing gone => exact .missing (gone.append later)
  | stopped node taken => exact .stopped node (taken.append later)
  | abandoned failed often => exact .abandoned (failed.append later) often

theorem Grounds.append (log later : List Exchange) (call : Call) (h : j.Grounds pace log call) :
    j.Grounds pace (log ++ later) call := by
  cases call with
  | write ns w =>
      cases w with
      | jobStatus name status => exact ⟨h.1, h.2.1, h.2.2.append later⟩
      | deferStop name attempts retryAt => exact ⟨h.1, h.2.1, h.2.2.1, h.2.2.2.1, h.2.2.2.2.append later⟩
      | editFinalizers name edits =>
          obtain ⟨named, adds | ⟨index, stage, removes, freed⟩⟩ := h
          · exact ⟨named, .inl adds⟩
          · exact ⟨named, .inr ⟨index, stage, removes, freed.append later⟩⟩
      | createSecret _ => exact h
      | applyConfig _ => exact h
      | applyService _ => exact h
      | applyGeneration _ => exact h
      | scaleGeneration _ _ => exact h
      | setServingGate _ _ _ => exact h
      | clusterStatus _ _ => exact h
  | send peer port credentials request =>
      cases request with
      | startRebalance node order =>
          obtain ⟨stage, decided, report, reported, idle⟩ := h
          exact ⟨stage, decided.append later, report, reported.append later, idle⟩
      | stopRebalance node =>
          obtain ⟨stage, processing, c, sees⟩ := h
          exact ⟨stage, processing, c, sees.append later⟩
      | loadStatus => exact h
      | nodes => exact h
      | listeners => exact h
      | availability => exact h
      | startEvacuation _ _ => exact h
  | clock => exact h
  | freshKey => exact h
  | getCluster _ _ => exact h
  | getSecret _ _ => exact h
  | find _ _ _ => exact h
  | listJobs _ => exact h
  | listSets _ _ => exact h
  | listPods _ _ => exact h
  | tell _ => exact h

/-! ### What was decided -/

variable {jobs : List Job}

theorem rival?_none (free : j.rival? jobs = none) {other : Job} (member : other ∈ jobs)
    (same : other.spec.instanceName = j.spec.instanceName) (processing : other.phase? = some .processing) :
    other.name = j.name := by
  have test := List.find?_eq_none.mp free other member
  by_cases own : other.name = j.name
  · exact own
  · exact absurd (by simp [own, same, processing]) test

theorem phase_of_going (going : j.phase?.any RebalancePhase.isTerminal = false) :
    j.phase? = none ∨ j.phase? = some .processing := by
  cases phase : j.phase? with
  | none => exact .inl rfl
  | some phase' =>
      rw [phase] at going
      cases phase' with
      | processing => exact .inr rfl
      | completed => cases going
      | failed => cases going

theorem precheck_start (starts : j.precheck (some c) jobs = .ok .start) :
    j.phase? = none ∧ c.capability.supportsEvacuation = true ∧ j.rival? jobs = none ∧
      c.status.any (·.conditions.holds Condition.running) = true := by
  unfold precheck at starts
  split at starts
  · cases starts
  · next going =>
    dsimp only at starts
    split at starts
    · cases starts
    · next supported =>
      split at starts
      · cases starts
      · next idle =>
        split at starts
        · cases starts
        · next free =>
          split at starts
          · next running =>
            refine ⟨?_, by simpa using supported, free, running⟩
            exact (phase_of_going (Bool.eq_false_iff.mpr going)).resolve_right idle
          · cases starts

theorem precheck_poll (polls : j.precheck (some c) jobs = .ok .poll) : j.phase? = some .processing := by
  unfold precheck at polls
  split at polls
  · cases polls
  · dsimp only at polls
    split at polls
    · cases polls
    · split at polls
      · next processing => exact processing
      · split at polls
        · cases polls
        · split at polls <;> cases polls

theorem precheck_terminal (ended : j.phase?.any RebalancePhase.isTerminal = true) {cluster : Option Cluster} :
    j.precheck cluster jobs = .ok .terminal :=
  if_pos ended

theorem going_of_precheck {cluster : Option Cluster} (decided : j.precheck cluster jobs = .ok step)
    (other : step ≠ .terminal) : j.phase?.any RebalancePhase.isTerminal = false := by
  cases ended : j.phase?.any RebalancePhase.isTerminal with
  | false => rfl
  | true =>
      cases decided.symm.trans (precheck_terminal ended)
      exact absurd rfl other

theorem settled?_eq_some {e : Failure} : j.settled? e now = some status ↔
    e.classify = .precondition ∧ status = j.currentStatus.markFailed e.message now := by
  unfold settled?
  split
  · next refused => simp [refused, eq_comm]
  · next other => simp [other]

/-! ### What the broker answers -/

theorem loadReport_reports {endpoint : Endpoint}
    (came : (Pass.management (client.loadReport endpoint)).Ends log (.ok report)) : Reports log report := by
  obtain ⟨result, asked, same⟩ := ends_mapFailure.mp came
  cases mapError_eq_ok.mp same.symm
  rcases ManagementClient.ask_ends asked with ⟨-, e, failed⟩ | ⟨reply, rfl, good⟩
  · cases failed
  · obtain ⟨response, document, rfl, reads⟩ := good report rfl
    exact ⟨_, _, _, response, document, List.mem_cons_self, reads⟩

theorem order_takes {endpoint : Endpoint}
    (given : (Pass.management (client.order endpoint request)).Ends log (.ok ())) : Takes log request := by
  obtain ⟨result, ordered, same⟩ := ends_mapFailure.mp given
  cases mapError_eq_ok.mp same.symm
  obtain ⟨document, first, rest, rfl, came, done⟩ := ends_bind_ok ordered
  rcases ManagementClient.document_ends came with ⟨-, e, failed⟩ | ⟨reply, rfl, good⟩
  · cases failed
  · obtain ⟨response, rfl, payload⟩ := good document rfl
    exact ⟨_, _, _, response, document, List.mem_cons_self, payload⟩

/-! ### Starting and following a run -/

theorem loadReport_heeds {endpoint : Endpoint} (stage : j.stage = .apply) :
    (Pass.management (client.loadReport endpoint)).Heeds (j.Grounds pace) log := by
  refine heeds_of_asks Grounds.append (asks_mapFailure (ManagementClient.loadReport_asks ?_))
  exact stage

theorem writeStatus_heeds (stage : j.stage = .apply) (records : j.Records log status) :
    (j.writeStatus status).Heeds (j.Grounds pace) log := by
  unfold writeStatus
  split
  · exact heeds_pure
  · refine heeds_ofExcept_bind fun ns _ => heeds_of_asks Grounds.append (Pass.write_asks ?_)
    exact ⟨rfl, stage, records⟩

theorem begin_heeds (stage : j.stage = .apply) (decided : j.Decides log .start) :
    (j.begin pace c client now).Heeds (j.Grounds pace) log := by
  unfold begin Job.decided
  refine heeds_ofExcept_bind fun ⟨node, endpoint⟩ _ => heeds_bind (loadReport_heeds stage) fun first report came => ?_
  have reported := (loadReport_reports came).after log
  split
  · next status adopted =>
    refine heeds_bind (writeStatus_heeds stage ?_) fun _ _ _ => heeds_pure
    exact .adopted (decided.append first) reported adopted
  · next none =>
    have idle : report.rebalances = [] := JobStatus.adopt?_eq_none.mp none
    refine heeds_ofExcept_bind fun order _ => heeds_bind ?_ fun second _ given => ?_
    · refine heeds_of_asks Grounds.append (asks_mapFailure (ManagementClient.order_asks ?_))
      exact ⟨stage, decided.append first, report, reported, idle⟩
    · refine heeds_bind (writeStatus_heeds stage ?_) fun later _ _ => heeds_call_bind trivial fun _ => heeds_pure
      exact .started ((decided.append first).append second) (reported.append second) idle
        ((order_takes given).after _) now

theorem poll_heeds (stage : j.stage = .apply) (decided : j.Decides log .poll) :
    (j.poll pace c client now).Heeds (j.Grounds pace) log := by
  unfold poll Job.decided
  refine heeds_ofExcept_bind fun ⟨node, endpoint⟩ _ => heeds_bind (loadReport_heeds stage) fun first report came => ?_
  have reported := (loadReport_reports came).after log
  refine heeds_bind (writeStatus_heeds stage (.followed (decided.append first) reported now)) fun _ _ _ => ?_
  dsimp only
  split
  · exact heeds_call_bind trivial fun _ => heeds_pure
  · exact heeds_pure

theorem signIn_heeds : (Pass.access c.signIn).Heeds (j.Grounds pace) log :=
  heeds_of_asks Grounds.append (asks_mapFailure (Cluster.signIn_asks fun _ _ => trivial))

theorem onCluster_heeds {cluster : Option Cluster}
    {next : JobPace → Cluster → ManagementClient → Instant → Pass Action}
    (goes : ∀ c client now later, cluster = some c → (next pace c client now).Heeds (j.Grounds pace) (log ++ later)) :
    (drive.onCluster j pace cluster next).Heeds (j.Grounds pace) log := by
  unfold drive.onCluster
  split
  · exact heeds_fail
  · next c =>
    refine heeds_bind signIn_heeds fun first client _ => heeds_call_bind trivial fun now => ?_
    rw [List.append_assoc]
    exact goes c client now _ rfl

theorem sees_of_optional (log : List Exchange) {ns : String} {reply : Except ApiError Cluster} {later : List Exchange}
    (place : j.placed = .ok ns) (came : (Pass.optional reply).Ends later (.ok (some c))) :
    j.Sees (log ++ [⟨.getCluster ns j.spec.instanceName, reply⟩]) c := by
  have shown := mapError_eq_ok.mp (ends_ofExcept.mp came).2.symm
  unfold ApiError.orMissing at shown
  split at shown
  · cases shown
    exact ⟨ns, place, List.mem_append_right _ List.mem_cons_self⟩
  · split at shown <;> cases shown

theorem misses_of_optional (log : List Exchange) {ns : String} {reply : Except ApiError Cluster} {later : List Exchange}
    (place : j.placed = .ok ns) (came : (Pass.optional reply).Ends later (.ok none)) :
    j.Misses (log ++ [⟨.getCluster ns j.spec.instanceName, reply⟩]) := by
  have shown := mapError_eq_ok.mp (ends_ofExcept.mp came).2.symm
  unfold ApiError.orMissing at shown
  split at shown
  · cases shown
  · next e =>
    split at shown
    · next missing => exact ⟨ns, e, place, List.mem_append_right _ List.mem_cons_self, missing⟩
    · cases shown

theorem drive_heeds (stage : j.stage = .apply) : (j.drive pace).Heeds (j.Grounds pace) log := by
  unfold drive Job.decided
  refine heeds_ofExcept_bind fun ns place => heeds_call_bind trivial fun reply => ?_
  refine heeds_bind heeds_ofExcept fun nothing cluster came => heeds_call_bind trivial fun listed => ?_
  refine heeds_ofExcept_bind fun jobs shown => heeds_ofExcept_bind fun step decided => ?_
  subst shown
  have decides : ∀ c, cluster = some c → ∀ later, j.Decides (log ++ [⟨.getCluster ns j.spec.instanceName, reply⟩] ++
      nothing ++ [⟨.listJobs ns, .ok jobs⟩] ++ later) step := by
    intro c same later
    subst same
    have sees := ((sees_of_optional log place came).append nothing).append [⟨.listJobs ns, .ok jobs⟩]
    have here : j.Decides (log ++ [⟨.getCluster ns j.spec.instanceName, reply⟩] ++ nothing ++
        [⟨.listJobs ns, .ok jobs⟩]) step :=
      ⟨ns, c, jobs, place, List.mem_append_right _ List.mem_cons_self, sees, decided⟩
    exact here.append later
  cases step with
  | terminal => exact heeds_pure
  | waitForCluster => exact heeds_pure
  | start => exact onCluster_heeds fun c client now later same => begin_heeds stage (decides c same later)
  | poll => exact onCluster_heeds fun c client now later same => poll_heeds stage (decides c same later)

theorem apply_heeds (stage : j.stage = .apply) : (j.apply pace).Heeds (j.Grounds pace) log := by
  unfold apply
  refine heeds_outcome_bind (drive_heeds stage) fun first result _ => ?_
  split
  · exact heeds_pure
  · refine heeds_call_bind trivial fun now => ?_
    split
    · exact heeds_fail
    · next status settled =>
      exact heeds_bind (writeStatus_heeds stage (.failed settled)) fun _ _ _ =>
        heeds_call_bind trivial fun _ => heeds_pure

/-! ### Stopping a run -/

theorem stop_heeds (stage : ∃ index, j.stage = .cleanUp index) (processing : j.phase? = some .processing)
    (sees : j.Sees log c) : (j.stop c).Heeds (j.Grounds pace) log := by
  unfold stop Job.decided
  refine heeds_bind signIn_heeds fun first client _ => heeds_ofExcept_bind fun ⟨node, endpoint⟩ _ => ?_
  refine heeds_of_asks Grounds.append (asks_mapFailure (ManagementClient.order_asks ?_))
  exact ⟨stage, processing, c, sees.append first⟩

theorem stop_takes (stopped : (j.stop c).Ends log (.ok ())) : ∃ node, Takes log (.stopRebalance node) := by
  unfold stop Job.decided at stopped
  obtain ⟨client, first, rest, rfl, -, follows⟩ := ends_bind_ok stopped
  obtain ⟨⟨node, endpoint⟩, -, given⟩ := ends_ofExcept_bind_ok follows
  exact ⟨node, (order_takes given).after first⟩

theorem stopFailed_heeds {ns : String} {e : Failure} (stage : ∃ index, j.stage = .cleanUp index)
    (fails : j.StopFails log) : (j.stopFailed pace ns now e).Heeds (j.Grounds pace) log := by
  unfold stopFailed
  dsimp only
  split
  · exact heeds_call_bind trivial fun _ => heeds_pure
  · next few =>
    split
    · exact heeds_fail
    · refine heeds_bind (heeds_of_asks Grounds.append (Pass.write_asks ?_)) fun _ _ _ => heeds_fail
      exact ⟨rfl, stage, rfl, Nat.lt_of_not_le few, fails⟩

theorem stopFailed_gives {ns : String} {e : Failure} :
    (j.stopFailed pace ns now e).Gives fun _ => pace.stopLimit ≤ j.stopAttempts + 1 := by
  unfold stopFailed
  dsimp only
  split
  · next often => exact gives_after fun _ => gives_pure (Nat.le_trans often j.nextAttempt_le)
  · split
    · exact gives_fail
    · exact gives_after fun _ => gives_fail

theorem cleanUp_heeds (stage : ∃ index, j.stage = .cleanUp index) : (j.cleanUp pace).Heeds (j.Grounds pace) log := by
  unfold cleanUp
  split
  · exact heeds_pure
  · next processing =>
    have processing : j.phase? = some .processing := Decidable.not_not.mp processing
    refine heeds_call_bind trivial fun now => ?_
    split
    · exact heeds_fail
    · refine heeds_ofExcept_bind fun ns place => heeds_call_bind trivial fun reply => ?_
      refine heeds_bind heeds_ofExcept fun nothing cluster came => ?_
      cases cluster with
      | none => exact heeds_pure
      | some c =>
          have sees := (sees_of_optional (log ++ [⟨.clock, now⟩]) place came).append nothing
          refine heeds_outcome_bind (stop_heeds stage processing sees) fun part result stops => ?_
          cases result with
          | ok _ => exact heeds_pure
          | error e =>
              exact stopFailed_heeds stage ⟨_, part, [], c, e, (List.append_nil _).symm, sees, stops⟩

theorem cleanUp_frees {action : Action} (ends : (j.cleanUp pace).Ends log (.ok action)) : j.Freed pace log := by
  unfold cleanUp at ends
  split at ends
  · next quiet => exact .idle quiet
  · obtain ⟨now, rest, rfl, looked⟩ := ends_now_bind.mp ends
    split at looked
    · cases (ends_fail.mp looked).2
    · obtain ⟨ns, place, placed⟩ := ends_ofExcept_bind_ok looked
      obtain ⟨reply, more, rfl, asked⟩ := ends_call_bind.mp placed
      obtain ⟨cluster, nothing, others, rfl, came, follows⟩ := ends_bind_ok asked
      cases cluster with
      | none =>
          have misses := misses_of_optional [⟨.clock, now⟩] place came
          exact .missing (misses.append (nothing ++ others))
      | some c =>
          have sees := (sees_of_optional [⟨.clock, now⟩] place came).append nothing
          obtain ⟨result, part, last, rfl, stops, settles⟩ := ends_outcome_bind.mp follows
          cases result with
          | ok _ =>
              obtain ⟨node, taken⟩ := stop_takes stops
              exact .stopped node (((taken.append last).after nothing).after [_, _])
          | error e =>
              refine .abandoned ⟨_, part, last, c, e, ?_, sees, stops⟩ (stopFailed_gives last action settles)
              simp

theorem editFinalizers_heeds {ns : String} {edits : List Json.PatchOp} {failed : ApiError → Failure}
    (grounds : ∀ name, j.metadata.name = some name → j.Grounds pace log (.write ns (.editFinalizers name edits))) :
    (j.editFinalizers ns edits failed).Heeds (j.Grounds pace) log := by
  unfold editFinalizers
  split
  · exact heeds_fail
  · next name named => exact heeds_call_bind (grounds name named) fun _ => heeds_ofExcept

theorem pass_heeds (j : Job) (pace : JobPace) : (j.pass pace).Heeds (j.Grounds pace) [] := by
  unfold pass
  refine heeds_ofExcept_bind fun ns place => ?_
  split
  · next stage =>
    refine heeds_bind (editFinalizers_heeds fun name named => ?_) fun _ _ _ => heeds_pure
    exact ⟨named, .inl ⟨stage, rfl⟩⟩
  · next stage => exact heeds_mapFailure (apply_heeds stage)
  · next index stage =>
    split
    · exact heeds_fail
    · refine heeds_bind (heeds_mapFailure (cleanUp_heeds ⟨index, stage⟩)) fun first action cleaned => ?_
      obtain ⟨result, ends, same⟩ := ends_mapFailure.mp cleaned
      cases mapError_eq_ok.mp same.symm
      refine heeds_bind (editFinalizers_heeds fun name named => ?_) fun _ _ _ => heeds_pure
      exact ⟨named, .inr ⟨index, stage, rfl, cleanUp_frees ends⟩⟩
  · exact heeds_pure

end Job

end BrokerFleet
