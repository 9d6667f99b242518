import BrokerFleet.Proofs.Job.Grounds
import BrokerFleet.Proofs.Pass.Unhindered

/-!
The turns of a pass over a job. The broker is asked for a report first, then a run may be started, and last a status may
be written; each is done once at most. So a pass goes by one report, and a failure is recorded only where that lists no
run.
-/

namespace BrokerFleet

open Kubernetes Attempt

def Call.turn? : Call → Option Nat
  | .send _ _ _ .loadStatus => some 0
  | .send _ _ _ (.startRebalance ..) => some 1
  | .write _ (.jobStatus ..) => some 2
  | _ => none

def Call.status? : Call → Option JobStatus
  | .write _ (.jobStatus _ status) => some status
  | _ => none

def recorded (log : List Exchange) : List JobStatus :=
  log.filterMap (·.call.status?)

def Past (place : Nat) (log : List Exchange) : Prop :=
  ∀ x ∈ log, ∀ turn, x.call.turn? = some turn → turn < place

/-- No status is recorded, and the broker lists no run if it is asked. -/
structure Unrecorded (log : List Exchange) : Prop where
  past : Past 2 log
  idle : ∀ report, Reports log report → report.rebalances = []

/-- A call of a pass over a job comes in its turn. A status is recorded only of a job that is not over, and a failure
only where the broker listed no run. -/
structure Job.Due (j : Job) (log : List Exchange) (c : Call) : Prop where
  past : ∀ turn, c.turn? = some turn → Past turn log
  going : ∀ status, c.status? = some status → j.phase?.any RebalancePhase.isTerminal = false
  idle : ∀ status, c.status? = some status → status.phase = some .failed →
    ∀ report, Reports log report → report.rebalances = []

variable {log first rest : List Exchange} {place : Nat} {report report' : LoadReport}

theorem Call.turn?_of_status? {c : Call} {status : JobStatus} (records : c.status? = some status) :
    c.turn? = some 2 := by
  unfold status? at records
  split at records
  · rfl
  · cases records

theorem past_nil : Past place [] :=
  fun _ member => nomatch member

theorem Past.mono {later : Nat} (past : Past place log) (le : place ≤ later) : Past later log :=
  fun x member turn same => Nat.lt_of_lt_of_le (past x member turn same) le

theorem Past.append (past : Past place log) (more : Past place rest) : Past place (log ++ rest) := by
  intro x member
  rcases List.mem_append.mp member with early | late
  · exact past x early
  · exact more x late

theorem past_of_asks {ε α : Type} {a : Attempt ε α} {r : Except ε α}
    (asks : a.Asks fun c => ∀ turn, c.turn? = some turn → turn < place) (ends : a.Ends log r) : Past place log :=
  asks.call_of_mem ends

theorem past_call {c : Call} {reply : c.Reply} (unturned : c.turn? = none) : Past place [⟨c, reply⟩] := by
  intro x member turn same
  cases List.mem_singleton.mp member
  cases unturned.symm.trans same

theorem Past.unreported (past : Past 0 log) : ¬ Reports log report := by
  rintro ⟨_, _, _, _, _, member, -⟩
  exact absurd (past _ member 0 rfl) (Nat.lt_irrefl 0)

theorem Reports.of_append (reported : Reports (log ++ rest) report) : Reports log report ∨ Reports rest report := by
  obtain ⟨peer, port, credentials, response, document, member, reads⟩ := reported
  rcases List.mem_append.mp member with early | late
  · exact .inl ⟨peer, port, credentials, response, document, early, reads⟩
  · exact .inr ⟨peer, port, credentials, response, document, late, reads⟩

theorem Unrecorded.after (unrecorded : Unrecorded log) (past : Past 0 first) : Unrecorded (first ++ log) where
  past := (past.mono (Nat.zero_le 2)).append unrecorded.past
  idle report reported := unrecorded.idle report (reported.of_append.resolve_left past.unreported)

theorem Unrecorded.before (unrecorded : Unrecorded log) (past : Past 0 rest) : Unrecorded (log ++ rest) where
  past := unrecorded.past.append (past.mono (Nat.zero_le 2))
  idle report reported := unrecorded.idle report (reported.of_append.resolve_right past.unreported)

theorem Past.unrecorded (past : Past 0 log) : Unrecorded log where
  past := past.mono (Nat.zero_le 2)
  idle _ reported := absurd reported past.unreported

/-! ### What is called once -/

section Heeds

variable {P : List Exchange → Call → Prop}

theorem Pass.write_heeds {ns : String} {w : Write} (here : P log (.write ns w)) : (Pass.write ns w).Heeds P log :=
  heeds_call_bind here fun _ => heeds_ofExcept

namespace ManagementClient

variable {client : ManagementClient} {peer : Endpoint} {request : ManagementRequest}

theorem document_heeds (here : P log (.send peer client.port client.credentials request)) :
    (client.document peer request).Heeds P log := by
  unfold document send
  refine heeds_bind ?_ fun _ _ _ => heeds_ofExcept
  split
  · exact heeds_fail
  · exact heeds_call_bind here fun _ => heeds_ofExcept

theorem ask_heeds {α : Type} {read? : Json → Option α}
    (here : P log (.send peer client.port client.credentials request)) : (client.ask peer request read?).Heeds P log :=
  heeds_bind (document_heeds here) fun _ _ _ => heeds_ofExcept

theorem order_heeds (here : P log (.send peer client.port client.credentials request)) :
    (client.order peer request).Heeds P log :=
  heeds_bind (document_heeds here) fun _ _ _ => heeds_pure

end ManagementClient

end Heeds

namespace Job

variable {j : Job} {pace : JobPace} {c : Cluster} {client : ManagementClient} {now : Instant} {status : JobStatus}
  {endpoint : Endpoint} {e : Failure}

theorem loadReport_reads {r : Except Failure LoadReport}
    (came : (Pass.management (client.loadReport endpoint)).Ends log r) (reported : Reports log report) :
    r = .ok report := by
  obtain ⟨result, asked, rfl⟩ := ends_mapFailure.mp came
  obtain ⟨peer, port, credentials, response, document, member, payload, decoded⟩ := reported
  rcases ManagementClient.ask_ends asked with ⟨rfl, -⟩ | ⟨reply, rfl, -⟩
  · cases member
  · cases List.mem_singleton.mp member
    have reads := ManagementClient.ask_succeeds client endpoint pathFault?_loadStatus payload decoded
    rw [Dialogue.Yields.unique asked reads]
    rfl

theorem loadReport_past {r : Except Failure LoadReport}
    (came : (Pass.management (client.loadReport endpoint)).Ends log r) : Past 1 log := by
  refine past_of_asks (asks_mapFailure (ManagementClient.loadReport_asks ?_)) came
  intro turn same
  cases same
  exact Nat.one_pos

theorem loadReport_refused (failed : (Pass.management (client.loadReport endpoint)).Ends log (.error e)) :
    Unrecorded log where
  past := (loadReport_past failed).mono (by decide)
  idle _ reported := nomatch loadReport_reads failed reported

theorem start_past {node : String} {order : RebalanceOrder} {r : Except Failure Unit}
    (given : (Pass.management (client.order endpoint (.startRebalance node order))).Ends log r) : Past 2 log := by
  refine past_of_asks (asks_mapFailure (ManagementClient.order_asks ?_)) given
  intro turn same
  cases same
  exact Nat.one_lt_two

theorem start_unreported {node : String} {order : RebalanceOrder} {r : Except Failure Unit}
    (given : (Pass.management (client.order endpoint (.startRebalance node order))).Ends log r) :
    ¬ Reports log report := by
  rintro ⟨_, _, _, _, _, member, -⟩
  have asks : (Pass.management (client.order endpoint (.startRebalance node order))).Asks fun c => c.turn? ≠ some 0 :=
    asks_mapFailure (ManagementClient.order_asks nofun)
  exact asks.call_of_mem given _ member rfl

theorem signIn_past {r : Except Failure ManagementClient} (signed : (Pass.access c.signIn).Ends log r) : Past 0 log :=
  past_of_asks (asks_mapFailure (Cluster.signIn_asks fun _ _ _ same => nomatch same)) signed

/-! ### Passes that fail -/

theorem writeStatus_lasting (fails : (j.writeStatus status).Ends log (.error e)) : e.classify ≠ .precondition := by
  intro refused
  unfold writeStatus at fails
  split at fails
  · cases (ends_pure.mp fails).2
  · rcases ends_ofExcept_bind.mp fails with ⟨_, -, -, same⟩ | ⟨ns, -, writes⟩
    · cases same
      cases refused
    · obtain ⟨reply, rest, -, answered⟩ := ends_call_bind.mp writes
      cases reply with
      | ok _ => cases (ends_ofExcept.mp answered).2
      | error cause =>
          cases (ends_ofExcept.mp answered).2
          cases refused

theorem writes_lasting {next : Unit → Pass Action} (succeeds : ∀ later, ¬ (next ()).Ends later (.error e))
    (fails : Attempt.Ends (j.writeStatus status >>= next) log (.error e)) : e.classify ≠ .precondition := by
  rcases ends_bind.mp fails with ⟨_, failed, same⟩ | ⟨_, _, later, -, -, follows⟩
  · cases same
    exact writeStatus_lasting failed
  · exact absurd follows (succeeds later)

theorem tells_ok {type : EventType} {reason text : String} {action : Action} {later : List Exchange} :
    ¬ Attempt.Ends (do Attempt.tell type reason text; return action : Pass Action) later (.error e) := by
  intro tells
  obtain ⟨_, -, done⟩ := ends_tell_bind.mp tells
  cases (ends_pure.mp done).2

theorem begin_refused (fails : (j.begin pace c client now).Ends log (.error e)) (refused : e.classify = .precondition) :
    Unrecorded log := by
  unfold begin Job.decided at fails
  rcases ends_ofExcept_bind.mp fails with ⟨_, -, rfl, -⟩ | ⟨⟨node, endpoint⟩, -, asks⟩
  · exact past_nil.unrecorded
  rcases ends_bind.mp asks with ⟨_, failed, -⟩ | ⟨report, first, rest, rfl, came, goes⟩
  · exact loadReport_refused failed
  have past := (loadReport_past came).mono (show 1 ≤ 2 by decide)
  split at goes
  · exact absurd refused (writes_lasting (fun _ done => by cases (ends_pure.mp done).2) goes)
  · next none =>
    have idle : ∀ report', Reports first report' → report'.rebalances = [] := by
      intro report' reported
      cases loadReport_reads came reported
      exact JobStatus.adopt?_eq_none.mp none
    rcases ends_ofExcept_bind.mp goes with ⟨_, -, rfl, -⟩ | ⟨order, -, orders⟩
    · rw [List.append_nil]
      exact ⟨past, idle⟩
    -- the order may be refused by the broker, and then there was no run by its report
    rcases ends_bind.mp orders with ⟨_, failed, -⟩ | ⟨_, second, last, rfl, -, writes⟩
    · exact ⟨past.append (start_past failed), fun report' reported =>
        idle report' (reported.of_append.resolve_right (start_unreported failed))⟩
    · exact absurd refused (writes_lasting (fun _ => tells_ok) writes)

theorem poll_refused (fails : (j.poll pace c client now).Ends log (.error e)) (refused : e.classify = .precondition) :
    Unrecorded log := by
  unfold poll Job.decided at fails
  rcases ends_ofExcept_bind.mp fails with ⟨_, -, rfl, -⟩ | ⟨⟨node, endpoint⟩, -, asks⟩
  · exact past_nil.unrecorded
  rcases ends_bind.mp asks with ⟨_, failed, -⟩ | ⟨report, first, rest, rfl, came, goes⟩
  · exact loadReport_refused failed
  refine absurd refused (writes_lasting (fun later follows => ?_) goes)
  dsimp only at follows
  split at follows
  · exact tells_ok follows
  · cases (ends_pure.mp follows).2

theorem onCluster_refused {cluster : Option Cluster}
    {next : JobPace → Cluster → ManagementClient → Instant → Pass Action}
    (goes : ∀ c client now later, (next pace c client now).Ends later (.error e) → Unrecorded later)
    (fails : (drive.onCluster j pace cluster next).Ends log (.error e)) : Unrecorded log := by
  unfold drive.onCluster at fails
  split at fails
  · obtain ⟨rfl, -⟩ := ends_fail.mp fails
    exact past_nil.unrecorded
  · next c =>
    rcases ends_bind.mp fails with ⟨_, failed, -⟩ | ⟨client, first, rest, rfl, signed, looks⟩
    · exact (signIn_past failed).unrecorded
    · obtain ⟨now, later, rfl, follows⟩ := ends_now_bind.mp looks
      exact ((goes c client now later follows).after (past_call rfl)).after (signIn_past signed)

theorem drive_refused (fails : (j.drive pace).Ends log (.error e)) (refused : e.classify = .precondition) :
    j.phase?.any RebalancePhase.isTerminal = false ∧ Unrecorded log := by
  unfold drive Job.decided at fails
  rcases ends_ofExcept_bind.mp fails with ⟨_, -, -, same⟩ | ⟨ns, place, placed⟩
  · cases same
    cases refused
  obtain ⟨reply, rest, rfl, looked⟩ := ends_call_bind.mp placed
  rcases ends_ofExcept_bind.mp looked with ⟨_, -, -, same⟩ | ⟨cluster, shown, goes⟩
  · cases same
    cases refused
  obtain ⟨listed, rest, rfl, heard⟩ := ends_call_bind.mp goes
  rcases ends_ofExcept_bind.mp heard with ⟨_, -, -, same⟩ | ⟨jobs, rfl, decides⟩
  · cases same
    cases refused
  have looks : ∀ {later : List Exchange}, Unrecorded later → Unrecorded
      (⟨.getCluster ns j.spec.instanceName, reply⟩ :: ⟨.listJobs ns, .ok jobs⟩ :: later) := fun unrecorded =>
    (unrecorded.after (past_call rfl)).after (past_call rfl)
  cases ended : j.phase?.any RebalancePhase.isTerminal with
  | true =>
      rw [precheck_terminal ended] at decides
      rcases ends_ofExcept_bind.mp decides with ⟨_, same, -⟩ | ⟨_, same, follows⟩
      · cases same
      · cases same
        cases (ends_pure.mp follows).2
  | false =>
      refine ⟨rfl, looks ?_⟩
      rcases ends_ofExcept_bind.mp decides with ⟨_, -, rfl, -⟩ | ⟨step, -, follows⟩
      · exact past_nil.unrecorded
      cases step with
      | terminal => cases (ends_pure.mp follows).2
      | waitForCluster => cases (ends_pure.mp follows).2
      | start => exact onCluster_refused (fun _ _ _ _ fails => begin_refused fails refused) follows
      | poll => exact onCluster_refused (fun _ _ _ _ fails => poll_refused fails refused) follows

/-! ### Every call in its turn -/

theorem due_of_unturned (log : List Exchange) (c : Call) (unturned : c.turn? = none) : j.Due log c where
  past turn same := by cases unturned.symm.trans same
  going status records := by cases unturned.symm.trans (Call.turn?_of_status? records)
  idle status records := by cases unturned.symm.trans (Call.turn?_of_status? records)

theorem due_of_past {c : Call} (past : Past place log) (turn : c.turn? = some place) (silent : c.status? = none) :
    j.Due log c where
  past turn' same := by
    cases turn.symm.trans same
    exact past
  going status records := by cases silent.symm.trans records
  idle status records := by cases silent.symm.trans records

theorem writeStatus_due (past : Past 2 log) (going : j.phase?.any RebalancePhase.isTerminal = false)
    (idle : status.phase = some .failed → ∀ report, Reports log report → report.rebalances = []) :
    (j.writeStatus status).Heeds j.Due log := by
  unfold writeStatus
  split
  · exact heeds_pure
  · refine heeds_ofExcept_bind fun ns _ => Pass.write_heeds ⟨?_, ?_, ?_⟩
    · rintro turn ⟨⟩
      exact past
    · rintro _ ⟨⟩
      exact going
    · rintro _ ⟨⟩
      exact idle

theorem ask_due {α : Type} {request : ManagementRequest} {read? : Json → Option α}
    (due : j.Due log (.send endpoint client.port client.credentials request)) :
    (Pass.management (client.ask endpoint request read?)).Heeds j.Due log :=
  heeds_mapFailure (ManagementClient.ask_heeds due)

theorem loadReport_due (past : Past 0 log) : (Pass.management (client.loadReport endpoint)).Heeds j.Due log := by
  apply ask_due
  exact due_of_past past rfl rfl

theorem start_due {node : String} {order : RebalanceOrder} (past : Past 1 log) :
    (Pass.management (client.order endpoint (.startRebalance node order))).Heeds j.Due log := by
  have due : j.Due log (.send endpoint client.port client.credentials (.startRebalance node order)) :=
    due_of_past past rfl rfl
  exact heeds_mapFailure (ManagementClient.order_heeds due)

theorem begin_due (past : Past 0 log) (going : j.phase?.any RebalancePhase.isTerminal = false) :
    (j.begin pace c client now).Heeds j.Due log := by
  unfold begin Job.decided
  refine heeds_ofExcept_bind fun ⟨node, endpoint⟩ _ => ?_
  refine heeds_bind (loadReport_due past) fun first report came => ?_
  have asked : Past 1 (log ++ first) := (past.mono (by decide)).append (loadReport_past came)
  split
  · next status adopted =>
    obtain ⟨-, rfl⟩ := JobStatus.adopt?_eq_some.mp adopted
    exact heeds_bind (writeStatus_due (asked.mono (by decide)) going nofun) fun _ _ _ => heeds_pure
  · refine heeds_ofExcept_bind fun order _ => ?_
    refine heeds_bind (start_due asked) fun second _ given => ?_
    have started : Past 2 (log ++ first ++ second) := (asked.mono (by decide)).append (start_past given)
    refine heeds_bind (writeStatus_due started going nofun) fun _ _ _ => ?_
    exact heeds_call_bind (due_of_unturned _ _ rfl) fun _ => heeds_pure

theorem follow_not_failed {states : List RebalanceState} {s : JobStatus} :
    (s.follow states now).1.phase ≠ some .failed := by
  unfold JobStatus.follow
  split <;> exact nofun

theorem poll_due (past : Past 0 log) (going : j.phase?.any RebalancePhase.isTerminal = false) :
    (j.poll pace c client now).Heeds j.Due log := by
  unfold poll Job.decided
  refine heeds_ofExcept_bind fun ⟨node, endpoint⟩ _ => ?_
  refine heeds_bind (loadReport_due past) fun first report came => ?_
  have asked : Past 2 (log ++ first) := (past.mono (by decide)).append ((loadReport_past came).mono (by decide))
  refine heeds_bind (writeStatus_due asked going fun failed => absurd failed follow_not_failed) fun _ _ _ => ?_
  dsimp only
  split
  · exact heeds_call_bind (due_of_unturned _ _ rfl) fun _ => heeds_pure
  · exact heeds_pure

theorem onCluster_due {cluster : Option Cluster}
    {next : JobPace → Cluster → ManagementClient → Instant → Pass Action}
    (goes : ∀ c client now later, Past 0 later → (next pace c client now).Heeds j.Due (log ++ later)) :
    (drive.onCluster j pace cluster next).Heeds j.Due log := by
  unfold drive.onCluster
  split
  · exact heeds_fail
  · next c =>
    have signs : (Pass.access c.signIn).Heeds j.Due log :=
      heeds_of_any due_of_unturned (asks_mapFailure (Cluster.signIn_asks fun _ _ => rfl))
    refine heeds_bind signs fun first client signed => heeds_call_bind (due_of_unturned _ _ rfl) fun now => ?_
    rw [List.append_assoc]
    exact goes c client now _ ((signIn_past signed).append (past_call rfl))

theorem drive_due (past : Past 0 log) : (j.drive pace).Heeds j.Due log := by
  unfold drive Job.decided
  refine heeds_ofExcept_bind fun ns _ => heeds_call_bind (due_of_unturned _ _ rfl) fun reply => ?_
  refine heeds_ofExcept_bind fun cluster _ => heeds_call_bind (due_of_unturned _ _ rfl) fun listed => ?_
  refine heeds_ofExcept_bind fun jobs _ => heeds_ofExcept_bind fun step decided => ?_
  have looked : Past 0 (log ++ [⟨.getCluster ns j.spec.instanceName, reply⟩] ++ [⟨.listJobs ns, listed⟩]) :=
    (past.append (past_call rfl)).append (past_call rfl)
  cases step with
  | terminal => exact heeds_pure
  | waitForCluster => exact heeds_pure
  | start =>
      have going := going_of_precheck decided nofun
      exact onCluster_due fun _ _ _ _ more => begin_due (looked.append more) going
  | poll =>
      have going := going_of_precheck decided nofun
      exact onCluster_due fun _ _ _ _ more => poll_due (looked.append more) going

theorem apply_due (past : Past 0 log) : (j.apply pace).Heeds j.Due log := by
  unfold apply
  refine heeds_outcome_bind (drive_due past) fun first result ends => ?_
  split
  · exact heeds_pure
  · next e =>
    refine heeds_call_bind (due_of_unturned _ _ rfl) fun now => ?_
    split
    · exact heeds_fail
    · next status settled =>
      obtain ⟨refused, -⟩ := settled?_eq_some.mp settled
      -- a second status is never recorded: what ended the job came before the first one
      obtain ⟨going, unrecorded⟩ := drive_refused ends refused
      have idle : Unrecorded (log ++ first ++ [⟨.clock, now⟩]) := (unrecorded.after past).before (past_call rfl)
      refine heeds_bind (writeStatus_due idle.past going fun _ => idle.idle) fun _ _ _ => ?_
      exact heeds_call_bind (due_of_unturned _ _ rfl) fun _ => heeds_pure

theorem pass_due (j : Job) (pace : JobPace) : (j.pass pace).Heeds j.Due [] := by
  by_cases stage : j.stage = .apply
  · unfold pass
    refine heeds_ofExcept_bind fun ns _ => ?_
    rw [stage]
    exact heeds_mapFailure (apply_due past_nil)
  -- a job that is not applied is not asked about, started or recorded
  · refine (pass_heeds j pace).imp fun log c grounds => due_of_unturned log c ?_
    unfold Call.turn?
    split
    · exact absurd grounds stage
    · exact absurd grounds.1 stage
    · exact absurd grounds.2.1 stage
    · rfl

/-! ### What was done in turn -/

variable {before after : List Exchange} {x y : Exchange} {d : Dialogue (Except Failure Action)}

theorem due_of_split (comes : (j.pass pace).run.Comes (before ++ x :: after) d) : j.Due before x.call :=
  (pass_due j pace).of_split comes

theorem turn_le_of_split (comes : (j.pass pace).run.Comes (before ++ x :: after) d) {turn : Nat}
    (first : x.call.turn? = some place) (member : y ∈ after) (later : y.call.turn? = some turn) : place < turn := by
  obtain ⟨between, others, rfl⟩ := List.append_of_mem member
  rw [← List.cons_append, ← List.append_assoc] at comes
  exact (due_of_split comes).past turn later x (List.mem_append_right _ List.mem_cons_self) place first

theorem turn_once (comes : (j.pass pace).run.Comes (before ++ x :: after) d) (turn : x.call.turn? = some place) :
    ∀ y ∈ before ++ after, y.call.turn? ≠ some place := by
  intro y member same
  rcases List.mem_append.mp member with early | late
  · exact Nat.lt_irrefl _ ((due_of_split comes).past place turn y early place same)
  · exact Nat.lt_irrefl _ (turn_le_of_split comes turn late same)

theorem turn_unique (comes : (j.pass pace).run.Comes log d) (here : x ∈ log) (there : y ∈ log)
    (turn : x.call.turn? = some place) (same : y.call.turn? = some place) : y = x := by
  obtain ⟨before, after, rfl⟩ := List.append_of_mem here
  rcases List.mem_append.mp there with early | late
  · exact absurd same (turn_once comes turn y (List.mem_append_left _ early))
  · rcases List.mem_cons.mp late with rfl | later
    · rfl
    · exact absurd same (turn_once comes turn y (List.mem_append_right _ later))

theorem reports_unique (comes : (j.pass pace).run.Comes log d) (first : Reports log report)
    (second : Reports log report') : report = report' := by
  obtain ⟨_, _, _, _, _, here, payload, decoded⟩ := first
  obtain ⟨_, _, _, _, _, there, payload', decoded'⟩ := second
  cases turn_unique comes here there rfl rfl
  cases payload.symm.trans payload'
  exact Except.ok.inj (decoded.symm.trans decoded')

theorem reports_before (comes : (j.pass pace).run.Comes (before ++ x :: after) d) (turn : x.call.turn? = some place)
    (late : 0 < place) (reported : Reports (before ++ x :: after) report) : Reports before report := by
  obtain ⟨peer, port, credentials, response, document, member, reads⟩ := reported
  rcases List.mem_append.mp member with early | other
  · exact ⟨peer, port, credentials, response, document, early, reads⟩
  · rcases List.mem_cons.mp other with rfl | later
    · cases turn
      exact absurd late (Nat.lt_irrefl 0)
    · exact absurd (turn_le_of_split comes turn later rfl) (Nat.not_lt_zero _)

theorem recorded_nil (unturned : ∀ x ∈ log, x.call.turn? ≠ some 2) : recorded log = [] := by
  refine List.filterMap_eq_nil_iff.mpr fun x member => ?_
  cases records : x.call.status? with
  | none => rfl
  | some status => exact absurd (Call.turn?_of_status? records) (unturned x member)

theorem recorded_once (comes : (j.pass pace).run.Comes log d) : (recorded log).length ≤ 1 := by
  by_cases silent : recorded log = []
  · rw [silent]
    exact Nat.zero_le 1
  · obtain ⟨status, member⟩ := List.exists_mem_of_ne_nil _ silent
    obtain ⟨x, there, records⟩ := List.mem_filterMap.mp member
    obtain ⟨before, after, rfl⟩ := List.append_of_mem there
    have once := turn_once comes (Call.turn?_of_status? records)
    have early : recorded before = [] := recorded_nil fun y member => once y (List.mem_append_left _ member)
    have late : recorded after = [] := recorded_nil fun y member => once y (List.mem_append_right _ member)
    have one : recorded (before ++ x :: after) = recorded before ++ status :: recorded after := by
      simp [recorded, records]
    rw [one, early, late]
    exact Nat.le_refl 1

theorem recorded_due (comes : (j.pass pace).run.Comes log d) (records : status ∈ recorded log) :
    j.phase?.any RebalancePhase.isTerminal = false ∧
      (status.phase = some .failed → ∀ report, Reports log report → report.rebalances = []) := by
  obtain ⟨x, there, same⟩ := List.mem_filterMap.mp records
  obtain ⟨before, after, rfl⟩ := List.append_of_mem there
  have due := due_of_split comes
  exact ⟨due.going status same, fun failed report reported =>
    due.idle status same failed report (reports_before comes (Call.turn?_of_status? same) Nat.two_pos reported)⟩

end Job

end BrokerFleet
