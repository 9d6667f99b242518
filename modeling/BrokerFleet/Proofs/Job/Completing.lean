import BrokerFleet.Proofs.Job.Answering

/-!
What a report of the broker makes of a job that is processing. The job is completed only by an answer that succeeds and
lists no runs; all others leave it processing, but for a refusal that the load is even already.
-/

namespace BrokerFleet

open Kubernetes Attempt

/-! ### What lists no runs -/

namespace LoadReport

/-- A value that lists no runs: it has no list of them or an empty one, be it by name or by position. -/
inductive ListsNoRuns : Json → Prop where
  | object {members : Members} (none : Json.lookup "rebalances" members = none ∨
      Json.lookup "rebalances" members = some (.array [])) : ListsNoRuns (.object members)
  | array {items : List Json} (few : items.length ≤ 2) (none : items[1]? = none ∨ items[1]? = some (.array [])) :
      ListsNoRuns (.array items)

theorem listed?_eq_nil {α : Type} {f : Json.Fields} {name : String} {read? : Json → Option α} {found : List α}
    (read : listed? f name read? = some found) : found = [] ↔ f name = none ∨ f name = some (.array []) := by
  unfold listed? at read
  split at read
  · next value named =>
    unfold Json.list? at read
    split at read
    · next items =>
      cases items with
      | nil =>
          cases read
          simp [named]
      | cons item rest =>
          have filled : found ≠ [] := by
            rintro rfl
            simp [List.mapM_cons, Option.bind_eq_some_iff] at read
          simp [named, filled]
    · cases read
  · next missing =>
    cases read
    simp [missing]

theorem lookup_second {first second : String} (apart : first ≠ second) {items : List Json} (few : items.length ≤ 2) :
    Json.lookup second ([first, second].zip items) = items[1]? := by
  match items, few with
  | [], _ => rfl
  | [a], _ => simp [Json.lookup, apart]
  | [a, b], _ => simp [Json.lookup, apart]

theorem listsNoRuns_iff {value : Json} {report : LoadReport} (read : ofReport? value = some report) :
    report.rebalances = [] ↔ ListsNoRuns value := by
  unfold ofReport? at read
  obtain ⟨f, fields, readable⟩ := Option.bind_eq_some_iff.mp read
  obtain ⟨evacuations, -, lists⟩ := Option.bind_eq_some_iff.mp readable
  obtain ⟨rebalances, listed, same⟩ := Option.bind_eq_some_iff.mp lists
  cases same
  refine (listed?_eq_nil listed).trans ?_
  cases value with
  | object members =>
      cases fields
      refine ⟨.object, ?_⟩
      rintro ⟨none⟩
      exact none
  | array items =>
      simp only [Json.fields?, Option.ite_none_right_eq_some, Option.some.injEq] at fields
      obtain ⟨few, rfl⟩ := fields
      have second : Json.lookup "rebalances" (["evacuations", "rebalances"].zip items) = items[1]? :=
        lookup_second (by decide) few
      dsimp only
      rw [second]
      refine ⟨.array few, ?_⟩
      rintro ⟨none⟩
      assumption
  | null => cases fields
  | bool _ => cases fields
  | int _ => cases fields
  | real _ => cases fields
  | string _ => cases fields

end LoadReport

namespace Response

variable {response : Response} {report : LoadReport} {e : ManagementFailure} {members : Members} {code : Json}

def reported (r : Response) : Except ManagementFailure LoadReport :=
  (r.payload ManagementRequest.loadStatus.path).bind
    (decode ManagementRequest.loadStatus.path LoadReport.ofReport?)

/-- An answer that succeeds and refuses nothing, and that can be read as a report. -/
structure Reads (r : Response) (report : LoadReport) : Prop where
  succeeds : 200 ≤ r.status ∧ r.status < 300
  accepts : ¬ ∃ members code, r.Refuses members code
  reads : ∃ value, Json.parseBytes? r.body = some value ∧ LoadReport.ofReport? value = some report

/-- An answer that succeeds, refuses nothing and lists no runs. -/
structure SaysIdle (r : Response) : Prop where
  succeeds : 200 ≤ r.status ∧ r.status < 300
  accepts : ¬ ∃ members code, r.Refuses members code
  lists : ∃ value, Json.parseBytes? r.body = some value ∧ LoadReport.ListsNoRuns value

theorem Reads.idle_iff (reads : response.Reads report) : report.rebalances = [] ↔ response.SaysIdle := by
  obtain ⟨succeeds, accepts, value, parsed, read⟩ := reads
  refine (LoadReport.listsNoRuns_iff read).trans ⟨fun lists => ⟨succeeds, accepts, value, parsed, lists⟩, ?_⟩
  rintro ⟨-, -, other, same, lists⟩
  cases parsed.symm.trans same
  exact lists

theorem reported_of_accepted (accepts : ¬ ∃ members code, response.Refuses members code) :
    response.reported = if 200 ≤ response.status ∧ response.status < 300 then
        decode ManagementRequest.loadStatus.path LoadReport.ofReport? (Json.parseBytes? response.body)
      else .error (.httpStatus ManagementRequest.loadStatus.path response.status
        (Text.Utf8.decodeLossy response.body)) := by
  rw [reported, payload_of_accepted accepts, document?_eq]
  split <;> rfl

theorem Refuses.reported (refuses : response.Refuses members code) : response.reported =
    .error (.refused ManagementRequest.loadStatus.path (rendered code) (textOf members)) := by
  rw [Response.reported, refuses.payload]
  rfl

theorem reported_eq_ok : response.reported = .ok report ↔ response.Reads report := by
  by_cases refused : ∃ members code, response.Refuses members code
  · obtain ⟨members, code, refuses⟩ := id refused
    rw [refuses.reported]
    exact ⟨nofun, fun reads => absurd refused reads.accepts⟩
  rw [reported_of_accepted refused]
  split
  · next succeeds =>
    rw [decode_eq_ok]
    constructor
    · intro read
      cases parsed : Json.parseBytes? response.body with
      | none =>
          rw [parsed] at read
          cases read
      | some value =>
          rw [parsed] at read
          exact ⟨succeeds, refused, value, parsed, read⟩
    · intro reads
      obtain ⟨-, -, value, parsed, read⟩ := reads
      rw [parsed]
      exact read
  · next fails => exact ⟨nofun, fun reads => absurd reads.succeeds fails⟩

theorem precondition_iff (reads : response.reported = .error e) : e.classify = .precondition ↔
    ∃ members code, response.Refuses members code ∧ SaysEven members code := by
  constructor
  · intro even
    by_cases refused : ∃ members code, response.Refuses members code
    · obtain ⟨members, code, refuses⟩ := refused
      cases refuses.reported.symm.trans reads
      exact ⟨members, code, refuses, ManagementFailure.precondition_iff.mp even⟩
    · rw [reported_of_accepted refused] at reads
      split at reads
      · unfold decode at reads
        split at reads
        · cases reads
        · cases reads
          cases even
      · cases reads
        cases even
  · intro h
    obtain ⟨members, code, refuses, even⟩ := h
    cases refuses.reported.symm.trans reads
    exact ManagementFailure.precondition_iff.mpr even

end Response

namespace Job

variable {j k : Job} {pace : JobPace} {c : Cluster} {client : ManagementClient} {now : Instant} {log : List Exchange}
  {r : Except Failure Action} {peer : Endpoint} {port : Nat} {credentials : Credentials} {response : Response}
  {status : JobStatus} {e : ManagementFailure} {d : Dialogue (Except Failure Action)}

/-- Once the report was asked for, the attempt fails with what the answer is read as, or it records what is reported and
writes nothing more. -/
theorem poll_answered (ends : (j.poll pace c client now).Ends log r)
    (answered : ⟨.send peer port credentials .loadStatus, .ok response⟩ ∈ log) :
    ∃ asked rest, log = asked ++ rest ∧ Unwritten asked ∧
      ((∃ e, response.reported = .error e ∧ rest = [] ∧ r = .error (.management e)) ∨
      ∃ report next, response.reported = .ok report ∧ (next ()).Asks Call.Aside ∧
        (∀ more result, (next ()).Ends more result → ∃ action, result = .ok action) ∧
        Ends (j.writeStatus (j.currentStatus.follow report.rebalances now).1 >>= next) rest r) := by
  -- what comes of asking for the report is what the answer is read as
  have reported : ∀ {first : List Exchange} {result : Except Failure LoadReport} {endpoint : Endpoint},
      (Pass.management (client.loadReport endpoint)).Ends first result →
      ⟨.send peer port credentials .loadStatus, .ok response⟩ ∈ first →
      result = response.reported.mapError .management := by
    intro first result endpoint came member
    obtain ⟨report, asked, rfl⟩ := ends_mapFailure.mp came
    obtain ⟨-, -, same⟩ := ManagementClient.ask_answered asked member
    exact congrArg (·.mapError Failure.management) same
  unfold poll Job.decided at ends
  rcases ends_ofExcept_bind.mp ends with ⟨_, -, rfl, -⟩ | ⟨⟨node, endpoint⟩, -, asks⟩
  · cases answered
  rcases ends_bind.mp asks with ⟨failure, failed, rfl⟩ | ⟨report, first, rest, rfl, came, follows⟩
  · refine ⟨log, [], (List.append_nil log).symm, management_unwritten failed, .inl ?_⟩
    have same := reported failed answered
    cases reads : response.reported with
    | ok report =>
        rw [reads] at same
        cases same
    | error e =>
        rw [reads] at same
        cases same
        exact ⟨e, rfl, rfl, rfl⟩
  · have aside : (do
        if (j.currentStatus.follow report.rebalances now).2 then
          Attempt.tell .normal "RebalanceCompleted" ("Rebalance of cluster " ++ j.spec.instanceName ++ " completed")
          return .await
        return Requeue.action pace.steady .steady : Pass Action).Asks Call.Aside := by
      split
      · exact asks_bind (asks_tell.mpr trivial) fun _ => asks_pure
      · exact asks_pure
    have early : ⟨.send peer port credentials .loadStatus, .ok response⟩ ∈ first := by
      refine (List.mem_append.mp answered).resolve_right fun late => ?_
      refine writing_unsent (fun _ => ?_) follows _ late trivial
      exact aside.imp fun _ around => around.looks.unsent
    have same := reported came early
    refine ⟨first, rest, rfl, management_unwritten came, .inr ⟨report, fun _ => _, ?_, aside, ?_, follows⟩⟩
    · cases reads : response.reported with
      | ok other =>
          rw [reads] at same
          cases same
          rfl
      | error e =>
          rw [reads] at same
          cases same
    · intro more result tells
      dsimp only at tells
      split at tells
      · obtain ⟨_, -, done⟩ := ends_tell_bind.mp tells
        exact ⟨_, (ends_pure.mp done).2⟩
      · exact ⟨_, (ends_pure.mp tells).2⟩

theorem pass_polled (ends : (j.pass pace).Ends log r) (becomes : j.Becomes log k)
    (processing : j.phase? = some .processing)
    (answered : ⟨.send peer port credentials .loadStatus, .ok response⟩ ∈ log) :
    match response.reported with
    | .error e => (e.classify ≠ .precondition → k = j ∧ ∃ failure, r = .error failure) ∧
        (e.classify = .precondition → WritesSucceed log → EndsFailed k r)
    | .ok report => WritesSucceed log →
        ∃ now, k = { j with status := some (j.currentStatus.follow report.rebalances now).1 } := by
  have stage : j.stage = .apply := grounds_of_made (Dialogue.Yields.comes ends) answered
  obtain ⟨ns, c, client, now, first, mid, rest, result, final, place, rfl, looks, member, goes, settles, rfl⟩ :=
    pass_goes stage ends answered trivial
  rcases goes with ⟨unstarted, -⟩ | ⟨-, polls⟩
  · cases unstarted.symm.trans processing
  obtain ⟨asked, records, rfl, unwritten, ⟨e, reads, rfl, rfl⟩ | ⟨report, next, reads, aside, goes, recording⟩⟩ :=
    poll_answered polls member
  · rw [reads]
    have before : Unwritten (first ++ asked) := (unwritten_of_looks looks).append unwritten
    rw [List.append_nil, ← List.append_assoc] at becomes
    refine ⟨?_, ?_⟩
    · intro lasting
      obtain ⟨same, rfl⟩ := settles.keeps (show (Failure.management e).classify ≠ _ from lasting) before becomes
      exact ⟨same, _, rfl⟩
    · intro even succeed
      exact settles.ends_failed even before place succeed.of_append.2.of_append.2 becomes
  · rw [reads]
    intro succeed
    rw [List.append_assoc] at becomes
    have recorded := (becomes.after (unwritten_of_looks looks)).after unwritten
    obtain ⟨m, whileRecording, atRest⟩ := becomes_append.mp recorded
    have unwriting : (next ()).Asks fun c => ∀ ns w, c ≠ .write ns w := aside.imp fun _ => Call.Aside.unwritten
    obtain ⟨rfl, more, follows⟩ :=
      writeStatus_lasts place recording succeed.of_append.2.of_append.1.of_append.2 unwriting whileRecording
    obtain ⟨action, rfl⟩ := goes more result follows
    cases settles with
    | driven action =>
        cases atRest
        exact ⟨now, rfl⟩

theorem phase_follow (s : JobStatus) (states : List RebalanceState) (now : Instant) :
    (s.follow states now).1.phase = some (if states = [] then .completed else .processing) := by
  cases states <;> rfl

/-- What becomes of a job that is processing: it stays so, or it is completed where the broker lists no runs, or it is
failed. -/
theorem Becomes.phase_cases (becomes : j.Becomes log k) (comes : (j.pass pace).run.Comes log d)
    (processing : j.phase? = some .processing) : k.phase? = some .processing ∨
      (k.phase? = some .completed ∧ ∃ report, Reports log report ∧ report.rebalances = []) ∨
      (k.phase? = some .failed ∧ ∀ report, Reports log report → report.rebalances = []) := by
  rcases becomes.status_cases with same | ⟨status, records, same⟩
  · left
    unfold phase? at processing ⊢
    rw [same]
    exact processing
  have phase : k.phase? = status.phase := by simp [phase?, same]
  cases grounds_of_recorded comes records with
  | adopted decided _ _ => cases decided.unstarted.symm.trans processing
  | started decided _ _ _ _ => cases decided.unstarted.symm.trans processing
  | @followed report _ shown now =>
      rw [phase, phase_follow]
      by_cases idle : report.rebalances = []
      · exact .inr (.inl ⟨by simp [idle], report, shown, idle⟩)
      · exact .inl (by simp [idle])
  | failed settled =>
      obtain ⟨-, rfl⟩ := settled?_eq_some.mp settled
      exact .inr (.inr ⟨phase, (recorded_due comes records).2 rfl⟩)

theorem reads_of_reports (comes : (j.pass pace).run.Comes log d) {report : LoadReport} (shown : Reports log report)
    (answered : ⟨.send peer port credentials .loadStatus, .ok response⟩ ∈ log) : response.Reads report := by
  obtain ⟨_, _, _, other, document, there, payload, decoded⟩ := shown
  cases turn_unique comes answered there rfl rfl
  apply Response.reported_eq_ok.mp
  rw [Response.reported, payload]
  exact decoded

theorem reports_of_reads {report : LoadReport} (reads : response.Reads report)
    (answered : ⟨.send peer port credentials .loadStatus, .ok response⟩ ∈ log) : Reports log report := by
  have reported := Response.reported_eq_ok.mpr reads
  unfold Response.reported at reported
  cases payload : response.payload ManagementRequest.loadStatus.path with
  | error e =>
      rw [payload] at reported
      cases reported
  | ok document =>
      rw [payload] at reported
      exact ⟨peer, port, credentials, response, document, answered, payload, reported⟩

/-! ### What comes of a pass -/

section

variable {report : LoadReport} {members : Members} {code : Json}

theorem idle_of_completed (comes : (j.pass pace).run.Comes log d) (becomes : j.Becomes log k)
    (processing : j.phase? = some .processing)
    (answered : ⟨.send peer port credentials .loadStatus, .ok response⟩ ∈ log)
    (completed : k.phase? = some .completed) : response.SaysIdle := by
  rcases becomes.phase_cases comes processing with going | ⟨-, report, shown, idle⟩ | ⟨failed, -⟩
  · cases completed.symm.trans going
  · exact (reads_of_reports comes shown answered).idle_iff.mp idle
  · cases completed.symm.trans failed

theorem answered_of_completed (comes : (j.pass pace).run.Comes log d) (becomes : j.Becomes log k)
    (processing : j.phase? = some .processing) (completed : k.phase? = some .completed) :
    ∃ peer port credentials response, ⟨.send peer port credentials .loadStatus, .ok response⟩ ∈ log ∧
      response.SaysIdle := by
  rcases becomes.phase_cases comes processing with going | ⟨-, report, shown, idle⟩ | ⟨failed, -⟩
  · cases completed.symm.trans going
  · obtain ⟨peer, port, credentials, response, -, answered, -⟩ := id shown
    exact ⟨peer, port, credentials, response, answered, (reads_of_reports comes shown answered).idle_iff.mp idle⟩
  · cases completed.symm.trans failed

theorem completed_of_idle (ends : (j.pass pace).Ends log r) (becomes : j.Becomes log k)
    (processing : j.phase? = some .processing)
    (answered : ⟨.send peer port credentials .loadStatus, .ok response⟩ ∈ log) (idle : response.SaysIdle)
    (reads : response.Reads report) (succeed : WritesSucceed log) : k.phase? = some .completed := by
  have outcome := pass_polled ends becomes processing answered
  rw [Response.reported_eq_ok.mpr reads] at outcome
  obtain ⟨now, rfl⟩ := outcome succeed
  calc ({ j with status := some (j.currentStatus.follow report.rebalances now).1 } : Job).phase?
      = (j.currentStatus.follow report.rebalances now).1.phase := rfl
    _ = some (if report.rebalances = [] then .completed else .processing) := phase_follow _ _ _
    _ = some .completed := by rw [if_pos (reads.idle_iff.mpr idle)]

theorem unread_fails (ends : (j.pass pace).Ends log r) (becomes : j.Becomes log k)
    (processing : j.phase? = some .processing)
    (answered : ⟨.send peer port credentials .loadStatus, .ok response⟩ ∈ log)
    (unread : ¬ ∃ report, response.Reads report)
    (uneven : ¬ ∃ members code, response.Refuses members code ∧ Response.SaysEven members code) :
    k = j ∧ ∃ failure, r = .error failure := by
  have outcome := pass_polled ends becomes processing answered
  cases reads : response.reported with
  | ok report => exact absurd ⟨report, Response.reported_eq_ok.mp reads⟩ unread
  | error e =>
      rw [reads] at outcome
      exact outcome.1 fun even => uneven ((Response.precondition_iff reads).mp even)

theorem goes_on_of_busy (ends : (j.pass pace).Ends log r) (becomes : j.Becomes log k)
    (processing : j.phase? = some .processing)
    (answered : ⟨.send peer port credentials .loadStatus, .ok response⟩ ∈ log) (busy : ¬ response.SaysIdle) :
    k.phase? = some .processing ∨
      k.phase? = some .failed ∧ ∃ members code, response.Refuses members code ∧ Response.SaysEven members code := by
  have comes := Dialogue.Yields.comes ends
  rcases becomes.phase_cases comes processing with going | ⟨completed, -⟩ | ⟨failed, idle⟩
  · exact .inl going
  · exact absurd (idle_of_completed comes becomes processing answered completed) busy
  -- a failure is recorded only where no runs are listed, and an answer that lists none would have completed the job
  have unread : ¬ ∃ report, response.Reads report := by
    intro h
    obtain ⟨report, reads⟩ := h
    exact busy (reads.idle_iff.mp (idle report (reports_of_reads reads answered)))
  by_cases even : ∃ members code, response.Refuses members code ∧ Response.SaysEven members code
  · exact .inr ⟨failed, even⟩
  · obtain ⟨rfl, -⟩ := unread_fails ends becomes processing answered unread even
    exact .inl processing

theorem failed_of_even (ends : (j.pass pace).Ends log r) (becomes : j.Becomes log k)
    (processing : j.phase? = some .processing)
    (answered : ⟨.send peer port credentials .loadStatus, .ok response⟩ ∈ log)
    (refuses : response.Refuses members code) (even : Response.SaysEven members code) (succeed : WritesSucceed log) :
    EndsFailed k r := by
  have outcome := pass_polled ends becomes processing answered
  rw [refuses.reported] at outcome
  exact outcome.2 (ManagementFailure.precondition_iff.mpr even) succeed

end

/-- A job that is processing is completed only by an answer that succeeds, refuses nothing and lists no runs, and by such
an answer it is if that can be read as a report. After any other answer it is still processing, and the pass has failed
if the answer was no report; but where the broker refuses for the load is even already, the job has failed. -/
theorem completed_only_when_idle (ends : (j.pass pace).Ends log r) (becomes : j.Becomes log k)
    (processing : j.phase? = some .processing) :
    (k.phase? = some .completed → ∃ peer port credentials response,
      ⟨.send peer port credentials .loadStatus, .ok response⟩ ∈ log ∧ response.SaysIdle) ∧
    ∀ peer port credentials response, ⟨.send peer port credentials .loadStatus, .ok response⟩ ∈ log →
      (k.phase? = some .completed → response.SaysIdle) ∧
      (∀ report, response.SaysIdle → response.Reads report → WritesSucceed log → k.phase? = some .completed) ∧
      (¬ response.SaysIdle → k.phase? = some .processing ∨
        k.phase? = some .failed ∧ ∃ members code, response.Refuses members code ∧ Response.SaysEven members code) ∧
      ((¬ ∃ report, response.Reads report) →
        (¬ ∃ members code, response.Refuses members code ∧ Response.SaysEven members code) →
        k = j ∧ ∃ failure, r = .error failure) ∧
      ∀ members code, response.Refuses members code → Response.SaysEven members code → WritesSucceed log →
        EndsFailed k r := by
  have comes := Dialogue.Yields.comes ends
  refine ⟨answered_of_completed comes becomes processing, ?_⟩
  intro peer port credentials response answered
  refine ⟨idle_of_completed comes becomes processing answered, ?_, goes_on_of_busy ends becomes processing answered,
    unread_fails ends becomes processing answered, ?_⟩
  · intro report idle reads succeed
    exact completed_of_idle ends becomes processing answered idle reads succeed
  · intro members code refuses even succeed
    exact failed_of_even ends becomes processing answered refuses even succeed

/-! ### Sample answers -/

def followedJob : Job := sampleJob "first" (some startedStatus)

/-- A pass over that job in which the broker gives an answer, and what comes of it. -/
structure Followed (response : Response) (log : List Exchange) (k : Job) (r : Except Failure Action) : Prop where
  ends : (followedJob.pass (samplePace 5)).Ends log r
  becomes : followedJob.Becomes log k
  processing : followedJob.phase? = some .processing
  answered : ⟨.send samplePeer 18083 ⟨"user", "key"⟩ .loadStatus, .ok response⟩ ∈ log

theorem precheck_followed : followedJob.precheck (some runningCluster) [] = .ok .poll := rfl

def samplePoll (response : Response) : List Exchange :=
  followedJob.looksAround "default" runningCluster [] ++
    [⟨.getSecret "default" runningCluster.secretName, .ok sampleSecret⟩, ⟨.clock, sampleTime 2⟩,
      ⟨.send samplePeer 18083 ⟨"user", "key"⟩ .loadStatus, .ok response⟩]

theorem samplePoll_unwritten : Unwritten (samplePoll response) := by
  simp [Unwritten, samplePoll, looksAround]

theorem followed_written (more : List Exchange) {rest : List Exchange} (unwritten : Unwritten more)
    (aside : ∀ x ∈ rest, x.call.Aside) (ends : (followedJob.pass (samplePace 5)).Ends
      (samplePoll response ++ more ++ ⟨.write "default" (.jobStatus "first" status), .ok ()⟩ :: rest) r) :
    ∃ log, Followed response log { followedJob with status := some status } r := by
  refine ⟨_, ends, ?_, rfl, by simp [samplePoll]⟩
  exact becomes_written (samplePoll_unwritten.append unwritten) (.recorded _) aside

theorem sample_completed (accepted : response.document?.bind Response.refusal? = none)
    (success : response.isSuccess = true)
    (read : LoadReport.ofReport? (response.document?.getD .null) = some ⟨[], []⟩) :
    ∃ log k r, Followed response log k r ∧ k.phase? = some .completed := by
  have payload : response.payload ManagementRequest.loadStatus.path = .ok response.document? :=
    Response.payload_of_document accepted success
  have decoded : Response.decode ManagementRequest.loadStatus.path LoadReport.ofReport? response.document? =
      .ok ⟨[], []⟩ := Response.decode_of_read read
  obtain ⟨more, came, around, lasting, polls⟩ := poll_follows followedJob (samplePace 5) ⟨⟨"user", "key"⟩, 18083⟩
    (sampleTime 2) rfl coordinator_sample payload decoded nofun (.ok ())
  obtain ⟨rest, r, aside, ends⟩ := pass_drives rfl rfl
    (drive_onCluster rfl precheck_followed (.inr ⟨rfl, rfl⟩) rfl credentialsOf_sample polls) lasting
  obtain ⟨log, followed⟩ := followed_written [] unwritten_nil (List.forall_mem_append.mpr ⟨around, aside⟩) ends
  exact ⟨log, _, r, followed, rfl⟩

def listedAnswer : Response where
  status := 200
  body := Text.Utf8.encode "[[],[]]"

def evenAnswer : Response where
  status := 400
  body := Text.Utf8.encode "\x7b\"code\":\"NOTHING_TO_BALANCE\"\x7d"

theorem sample_failed : ∃ log k r, Followed evenAnswer log k r ∧ k.phase? = some .failed ∧ r = .ok .await := by
  have refusal : evenAnswer.document?.bind Response.refusal? = some ("NOTHING_TO_BALANCE", "") := by decide +kernel
  have refused : evenAnswer.payload ManagementRequest.loadStatus.path =
      .error (.refused ManagementRequest.loadStatus.path "NOTHING_TO_BALANCE" "") := by
    rw [Response.payload, refusal]
  have polls := poll_fails followedJob (samplePace 5) ⟨⟨"user", "key"⟩, 18083⟩ (sampleTime 2) coordinator_sample refused
  have drives := drive_onCluster rfl precheck_followed (.inr ⟨rfl, rfl⟩) rfl credentialsOf_sample polls
  have settled : followedJob.settled? (.management (.refused ManagementRequest.loadStatus.path "NOTHING_TO_BALANCE" ""))
      (sampleTime 2) = some _ := rfl
  obtain ⟨log, followed⟩ := followed_written [⟨.clock, sampleTime 2⟩] (by simp [Unwritten]) (by simp [Call.Aside])
    (pass_ends_failed rfl rfl drives settled (differs_of_phase (by decide)))
  exact ⟨log, _, _, followed, rfl, rfl⟩

/-- An object without runs lists none. -/
theorem plain_answer_completes : ∃ log k r, Followed plainAnswer log k r ∧ k.phase? = some .completed ∧
    plainAnswer.SaysIdle := by
  obtain ⟨log, k, r, followed, completed⟩ := sample_completed plainAnswer_reads.1 rfl plainAnswer_reads.2
  have idle := (completed_only_when_idle followed.ends followed.becomes followed.processing).2 _ _ _ _ followed.answered
  exact ⟨log, k, r, followed, completed, idle.1 completed⟩

/-- A list of runs that is empty need not be there for a job to be completed, nor need it be named; and a refusal may end
the job. -/
theorem ended_without_empty_list :
    (∃ log k r, Followed plainAnswer log k r ∧ k.phase? = some .completed ∧ ¬ ∃ members,
      Json.parseBytes? plainAnswer.body = some (.object members) ∧
        Json.lookup "rebalances" members = some (.array [])) ∧
    (∃ log k r, Followed listedAnswer log k r ∧ k.phase? = some .completed ∧ ¬ ∃ members,
      Json.parseBytes? listedAnswer.body = some (.object members)) ∧
    ∃ log k r, Followed evenAnswer log k r ∧ k.phase? = some .failed ∧ r = .ok .await := by
  refine ⟨?_, ?_, sample_failed⟩
  · obtain ⟨log, k, r, followed, completed⟩ := sample_completed plainAnswer_reads.1 rfl plainAnswer_reads.2
    refine ⟨log, k, r, followed, completed, ?_⟩
    intro h
    obtain ⟨members, reads, listed⟩ := h
    have missing : ((Json.parseBytes? plainAnswer.body).bind (Json.field? "rebalances")).isNone = true := by
      decide +kernel
    rw [reads, Option.bind_some, Json.field?, listed] at missing
    cases missing
  · have accepted : listedAnswer.document?.bind Response.refusal? = none := by decide +kernel
    have read : LoadReport.ofReport? (listedAnswer.document?.getD .null) = some ⟨[], []⟩ := by decide +kernel
    obtain ⟨log, k, r, followed, completed⟩ := sample_completed accepted rfl read
    refine ⟨log, k, r, followed, completed, ?_⟩
    intro h
    obtain ⟨members, reads⟩ := h
    have listed : ((Json.parseBytes? listedAnswer.body).bind (Json.list? some)).isSome = true := by decide +kernel
    rw [reads] at listed
    cases listed

end Job

end BrokerFleet
