import BrokerFleet.Proofs.Job.Course
import BrokerFleet.Proofs.Management.Envelope

/-!
What an answer to the order that starts a run makes of the job. A refusal counts whatever the HTTP status: it ends the
job if the load is even already, and otherwise the job stays as it is and is tried again at the steady pace. So it does
after an answer with another HTTP status than success; after all other answers the job is processing.
-/

namespace BrokerFleet

open Kubernetes Attempt

namespace Job

variable {j k : Job} {pace : JobPace} {c : Cluster} {client : ManagementClient} {now : Instant} {log : List Exchange}
  {r : Except Failure Action} {peer : Endpoint} {port : Nat} {credentials : Credentials} {node : String}
  {order : RebalanceOrder} {response : Response}

theorem management_unwritten {α : Type} {request : ManagementRequest} {read? : Json → Option α}
    {result : Except Failure α} (ends : (Pass.management (client.ask peer request read?)).Ends log result) :
    Unwritten log := by
  have asks : (Pass.management (client.ask peer request read?)).Asks fun c => ∀ ns w, c ≠ .write ns w :=
    asks_mapFailure (ManagementClient.ask_asks fun _ _ same => nomatch same)
  exact asks.call_of_mem ends

theorem begin_answered (ends : (j.begin pace c client now).Ends log r)
    (answered : ⟨.send peer port credentials (.startRebalance node order), .ok response⟩ ∈ log) :
    ∃ asked rest, log = asked ++ rest ∧ Unwritten asked ∧
      ((∃ e, response.payload (ManagementRequest.startRebalance node order).path = .error e ∧ rest = [] ∧
        r = .error (.management e)) ∨
      ∃ document, response.payload (ManagementRequest.startRebalance node order).path = .ok document ∧ Ends (do
        j.writeStatus (j.currentStatus.markProcessing now)
        Attempt.tell .normal "RebalanceStarted" ("Started rebalance on cluster " ++ j.spec.instanceName)
        return Requeue.action pace.steady (.retryAfter pace.retry)) rest r) := by
  unfold begin Job.decided at ends
  rcases ends_ofExcept_bind.mp ends with ⟨_, -, rfl, -⟩ | ⟨⟨coordinator, endpoint⟩, -, asks⟩
  · cases answered
  -- asking for the report is another request
  have elsewhere : ∀ {first : List Exchange} {result : Except Failure LoadReport},
      (Pass.management (client.loadReport endpoint)).Ends first result →
      ⟨.send peer port credentials (.startRebalance node order), .ok response⟩ ∉ first := by
    intro first result came member
    obtain ⟨_, asked, -⟩ := ends_mapFailure.mp came
    cases (ManagementClient.ask_answered asked member).1
  rcases ends_bind.mp asks with ⟨_, failed, -⟩ | ⟨report, first, rest, rfl, came, goes⟩
  · exact absurd answered (elsewhere failed)
  have later := (List.mem_append.mp answered).resolve_left (elsewhere came)
  dsimp only at goes
  split at goes
  · next status adopted =>
    exact absurd trivial (writing_unsent (fun _ => asks_pure) goes _ later)
  · rcases ends_ofExcept_bind.mp goes with ⟨_, -, rfl, -⟩ | ⟨wanted, -, orders⟩
    · cases later
    have reported : Unwritten first := management_unwritten came
    have sent : Unwritten [⟨.send peer port credentials (.startRebalance node order), .ok response⟩] := by
      intro x member ns w same
      cases List.mem_singleton.mp member
      cases same
    rcases ends_bind.mp orders with ⟨e, failed, rfl⟩ | ⟨_, second, last, rfl, given, records⟩
    · obtain ⟨result, ordered, same⟩ := ends_mapFailure.mp failed
      obtain ⟨rfl, rfl⟩ := ManagementClient.order_answered ordered later
      refine ⟨first ++ [_], [], (List.append_nil _).symm, reported.append sent, .inl ?_⟩
      cases payload : response.payload (ManagementRequest.startRebalance node order).path with
      | ok document =>
          rw [payload] at same
          cases same
      | error e =>
          rw [payload] at same
          cases same
          exact ⟨e, rfl, rfl, rfl⟩
    · have placed : ⟨.send peer port credentials (.startRebalance node order), .ok response⟩ ∈ second := by
        refine (List.mem_append.mp later).resolve_right fun member => ?_
        exact absurd trivial (recording_unsent records _ member)
      obtain ⟨result, ordered, same⟩ := ends_mapFailure.mp given
      obtain ⟨rfl, rfl⟩ := ManagementClient.order_answered ordered placed
      refine ⟨first ++ [_], last, by simp, reported.append sent, .inr ?_⟩
      cases payload : response.payload (ManagementRequest.startRebalance node order).path with
      | ok document => exact ⟨document, rfl, records⟩
      | error e =>
          rw [payload] at same
          cases same

theorem markFailed_holds {s : JobStatus} {text : String} :
    (s.markFailed text now).conditions.holds Condition.failed = true :=
  Conditions.holds_set_self (c := .new Condition.failed true "RebalanceFailed" text)

/-- The job is ended as failed, and the pass waits for a change. -/
structure EndsFailed (k : Job) (r : Except Failure Action) : Prop where
  phase : k.phase? = some .failed
  failed : k.currentStatus.conditions.holds Condition.failed = true
  awaits : r = .ok .await

/-- The job stays as it is, and the pass fails in a way that asks for the steady interval. -/
structure StaysSteady (j : Job) (pace : JobPace) (k : Job) (r : Except Failure Action) : Prop where
  same : k = j
  fails : ∃ e, r = .error e ∧ pace.toPace.afterJobFailure e = .requeue pace.steady

/-- The run is recorded. -/
structure GoesProcessing (pace : JobPace) (k : Job) (r : Except Failure Action) : Prop where
  phase : k.phase? = some .processing
  retries : r = .ok (Requeue.action pace.steady (.retryAfter pace.retry))

theorem Settles.keeps {e : Failure} {asked rest : List Exchange} {final : Except Failure Action}
    (lasting : e.classify ≠ .precondition) (settles : j.Settles (.error e) rest final) (unwritten : Unwritten asked)
    (becomes : j.Becomes (asked ++ rest) k) : k = j ∧ final = .error e := by
  cases settles with
  | failed now _ =>
      have looks : Unwritten [⟨.clock, now⟩] := unwritten_of_looks (by simp [Call.Looks])
      exact ⟨becomes.of_unwritten (unwritten.append looks), rfl⟩
  | ended refused _ => exact absurd refused lasting

theorem Settles.stays {e : ManagementFailure} {asked rest : List Exchange} {final : Except Failure Action}
    (control : e.classify = .controlPlane) (settles : j.Settles (.error (.management e)) rest final)
    (unwritten : Unwritten asked) (becomes : j.Becomes (asked ++ rest) k) :
    j.StaysSteady pace k (final.mapError .applying) := by
  have lasting : (Failure.management e).classify ≠ .precondition := by
    show e.classify ≠ .precondition
    simp [control]
  obtain ⟨same, rfl⟩ := settles.keeps lasting unwritten becomes
  refine ⟨same, _, rfl, ?_⟩
  show pace.actionFor e.classify = _
  rw [control]
  rfl

theorem Settles.records_failure {e : Failure} {asked rest : List Exchange} {final : Except Failure Action} {ns : String}
    (settles : j.Settles (.error e) rest final) (refused : e.classify = .precondition) (unwritten : Unwritten asked)
    (place : j.placed = .ok ns) (succeed : WritesSucceed rest) (becomes : j.Becomes (asked ++ rest) k) :
    ∃ now, k = { j with status := some (j.currentStatus.markFailed e.message now) } ∧ final = .ok .await := by
  cases settles with
  | failed now lasting => exact absurd refused lasting
  | @ended _ now others _ _ writes =>
      have looks : Unwritten [⟨.clock, now⟩] := unwritten_of_looks (by simp [Call.Looks])
      have later : WritesSucceed others := fun ns w reply member => succeed ns w reply (List.mem_cons_of_mem _ member)
      obtain ⟨awaits, same⟩ := records_and_tells place writes later ((becomes.after unwritten).after looks)
      exact ⟨now, same, awaits⟩

theorem Settles.ends_failed {e : Failure} {asked rest : List Exchange} {final : Except Failure Action} {ns : String}
    (settles : j.Settles (.error e) rest final) (refused : e.classify = .precondition) (unwritten : Unwritten asked)
    (place : j.placed = .ok ns) (succeed : WritesSucceed rest) (becomes : j.Becomes (asked ++ rest) k) :
    EndsFailed k (final.mapError .applying) := by
  obtain ⟨now, rfl, rfl⟩ := settles.records_failure refused unwritten place succeed becomes
  exact ⟨rfl, markFailed_holds, rfl⟩

theorem outcomes_apart : ¬ (EndsFailed k r ∧ j.StaysSteady pace k r) ∧ ¬ (EndsFailed k r ∧ GoesProcessing pace k r) ∧
    ¬ (j.StaysSteady pace k r ∧ GoesProcessing pace k r) := by
  refine ⟨?_, ?_, ?_⟩
  · intro both
    obtain ⟨⟨-, -, awaits⟩, ⟨-, e, failed, -⟩⟩ := both
    cases awaits.symm.trans failed
  · intro both
    obtain ⟨⟨-, -, awaits⟩, ⟨-, retries⟩⟩ := both
    cases awaits.symm.trans retries
  · intro both
    obtain ⟨⟨-, e, failed, -⟩, ⟨-, retries⟩⟩ := both
    cases failed.symm.trans retries

theorem pass_answered (ends : (j.pass pace).Ends log r) (becomes : j.Becomes log k) (succeed : WritesSucceed log)
    (answered : ⟨.send peer port credentials (.startRebalance node order), .ok response⟩ ∈ log) :
    match response.payload (ManagementRequest.startRebalance node order).path with
    | .error e => (e.classify = .precondition → EndsFailed k r) ∧ (e.classify = .controlPlane → j.StaysSteady pace k r)
    | .ok _ => GoesProcessing pace k r := by
  have grounds := grounds_of_made (Dialogue.Yields.comes ends) answered
  obtain ⟨stage, decided, -⟩ := grounds
  obtain ⟨ns, c, client, now, first, mid, rest, result, final, place, rfl, looks, member, goes, settles, rfl⟩ :=
    pass_goes stage ends answered trivial
  rcases goes with ⟨-, begins⟩ | ⟨processing, -⟩
  · obtain ⟨asked, records, rfl, unwritten, ⟨e, payload, rfl, rfl⟩ | ⟨document, payload, recording⟩⟩ :=
      begin_answered begins member
    · rw [payload]
      have before : Unwritten (first ++ asked) := (unwritten_of_looks looks).append unwritten
      rw [List.append_nil, ← List.append_assoc] at becomes
      refine ⟨?_, ?_⟩
      · intro even
        exact settles.ends_failed even before place succeed.of_append.2.of_append.2 becomes
      · intro control
        exact settles.stays control before becomes
    · rw [payload]
      rw [List.append_assoc] at becomes
      have recorded := (becomes.after (unwritten_of_looks looks)).after unwritten
      obtain ⟨o, whileRecording, atRest⟩ := becomes_append.mp recorded
      obtain ⟨rfl, rfl⟩ := records_and_tells place recording succeed.of_append.2.of_append.1.of_append.2 whileRecording
      cases settles with
      | driven action =>
          cases atRest
          exact ⟨rfl, rfl⟩
  · cases processing.symm.trans decided.unstarted

/-- From the answer to the order that starts a run to the status of the job, whatever the HTTP status and the body are,
if what is written is done. -/
theorem answer_decides (ends : (j.pass pace).Ends log r) (becomes : j.Becomes log k) (succeed : WritesSucceed log)
    (answered : ⟨.send peer port credentials (.startRebalance node order), .ok response⟩ ∈ log) :
    (∀ members code, response.Refuses members code →
      (Response.SaysEven members code → EndsFailed k r) ∧
      (¬ Response.SaysEven members code → j.StaysSteady pace k r)) ∧
    ((¬ ∃ members code, response.Refuses members code) →
      (¬ (200 ≤ response.status ∧ response.status < 300) → j.StaysSteady pace k r) ∧
      (200 ≤ response.status ∧ response.status < 300 → GoesProcessing pace k r)) ∧
    (¬ (EndsFailed k r ∧ j.StaysSteady pace k r) ∧ ¬ (EndsFailed k r ∧ GoesProcessing pace k r) ∧
      ¬ (j.StaysSteady pace k r ∧ GoesProcessing pace k r)) ∧
    ∀ t : Json.Reading.NumberText, t.value? = some (.int 0) →
      t.negative = false ∧ t.fraction = none ∧ t.exponent = none := by
  have outcome := pass_answered ends becomes succeed answered
  refine ⟨?_, ?_, outcomes_apart, fun t => Response.plain_of_zero⟩
  · intro members code refuses
    rw [refuses.payload] at outcome
    refine ⟨?_, ?_⟩
    · intro even
      exact outcome.1 (ManagementFailure.precondition_iff.mpr even)
    · intro uneven
      exact outcome.2 (ManagementFailure.controlPlane_of_uneven uneven)
  · intro accepted
    rw [Response.payload_of_accepted accepted] at outcome
    refine ⟨?_, ?_⟩
    · intro unsuccessful
      rw [if_neg unsuccessful] at outcome
      exact outcome.2 rfl
    · intro successful
      rw [if_pos successful] at outcome
      exact outcome

/-- A plain answer refuses nothing, and the run of the first sample job is recorded after it. -/
theorem plain_answer_starts : ∃ (pace : JobPace) (k : Job) (log : List Exchange) (r : Except Failure Action),
    ((sampleJob "first" none).pass pace).Ends log r ∧ (sampleJob "first" none).Becomes log k ∧ WritesSucceed log ∧
    ⟨.send samplePeer 18083 ⟨"user", "key"⟩ (.startRebalance sampleNode sampleOrder), .ok plainAnswer⟩ ∈ log ∧
    (¬ ∃ members code, plainAnswer.Refuses members code) ∧ GoesProcessing pace k r := by
  have free : (sampleJob "first" none).rival? [] = none := rfl
  obtain ⟨rest, r, aside, ends⟩ := sampleJob_starts (samplePace 5) (sampleTime 1) free (.ok ())
  rw [← List.append_assoc] at ends
  have unwritten : Unwritten ((sampleJob "first" none).looksAround "default" runningCluster [] ++
      sampleStart (sampleTime 1)) := by
    simp [Unwritten, looksAround, sampleStart]
  have affects : (sampleJob "first" none).Affects ⟨.write "default" (.jobStatus "first" startedStatus), .ok ()⟩ _ :=
    .recorded (.ok ())
  have becomes := becomes_written unwritten affects aside
  have succeed := unwritten.then_succeeds "default" (.jobStatus "first" startedStatus) () aside
  have answered : ⟨.send samplePeer 18083 ⟨"user", "key"⟩ (.startRebalance sampleNode sampleOrder), .ok plainAnswer⟩ ∈
      (sampleJob "first" none).looksAround "default" runningCluster [] ++ sampleStart (sampleTime 1) ++
        ⟨.write "default" (.jobStatus "first" startedStatus), .ok ()⟩ :: rest := by
    simp [sampleStart]
  have accepted : ¬ ∃ members code, plainAnswer.Refuses members code := by
    intro h
    obtain ⟨members, code, refuses⟩ := h
    have taken : plainAnswer.payload "" = .ok plainAnswer.document? :=
      Response.payload_of_document plainAnswer_reads.1 rfl
    cases refuses.payload.symm.trans taken
  exact ⟨_, _, _, _, ends, becomes, succeed, answered, accepted,
    ((answer_decides ends becomes succeed answered).2.1 accepted).2 (by decide)⟩

end Job

end BrokerFleet
