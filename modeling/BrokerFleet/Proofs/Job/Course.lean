import BrokerFleet.Proofs.Job.LifeCycle

/-!
The course of a pass over a job, taken apart. A pass that asks the broker has looked at the cluster and the other jobs
before, and goes on by what the broker answers; what comes of that is settled last.
-/

namespace BrokerFleet

open Kubernetes Attempt

def Call.Looks : Call → Prop
  | .send .. => False
  | .write .. => False
  | _ => True

theorem Call.Looks.unsent {c : Call} (looks : c.Looks) : ¬ c.Sends := by
  intro sends
  cases c <;> first | exact looks | exact sends

theorem Call.Aside.looks {c : Call} (aside : c.Aside) : c.Looks := by
  cases c <;> first | exact trivial | exact aside.elim

def Unwritten (log : List Exchange) : Prop :=
  ∀ x ∈ log, ∀ ns w, x.call ≠ .write ns w

/-- All that is written is done. -/
def WritesSucceed (log : List Exchange) : Prop :=
  ∀ ns w reply, ⟨.write ns w, reply⟩ ∈ log → ∃ answer, reply = .ok answer

variable {log first rest : List Exchange}

theorem unwritten_nil : Unwritten [] :=
  fun _ member => nomatch member

theorem unwritten_of_looks (looks : ∀ x ∈ log, x.call.Looks) : Unwritten log := by
  intro x member ns w same
  have looking := looks x member
  rw [same] at looking
  exact looking

theorem Unwritten.append (unwritten : Unwritten first) (more : Unwritten rest) : Unwritten (first ++ rest) := by
  intro x member
  rcases List.mem_append.mp member with early | late
  · exact unwritten x early
  · exact more x late

theorem WritesSucceed.of_append (succeed : WritesSucceed (first ++ rest)) : WritesSucceed first ∧ WritesSucceed rest :=
  ⟨fun ns w reply member => succeed ns w reply (List.mem_append_left _ member),
    fun ns w reply member => succeed ns w reply (List.mem_append_right _ member)⟩

theorem Unwritten.then_succeeds (unwritten : Unwritten first) (ns : String) (w : Write) (answer : w.Answer)
    (aside : ∀ x ∈ rest, x.call.Aside) : WritesSucceed (first ++ ⟨.write ns w, .ok answer⟩ :: rest) := by
  intro ns' w' reply member
  rcases List.mem_append.mp member with early | late
  · exact absurd rfl (unwritten _ early ns' w')
  · cases late with
    | head => exact ⟨answer, rfl⟩
    | tail _ told => exact (aside _ told).elim

/-! ### What a replica answers -/

namespace ManagementClient

variable {client : ManagementClient} {peer asked : Endpoint} {port : Nat} {credentials : Credentials}
  {request sent : ManagementRequest} {response : Response}

theorem mapError_id {ε α : Type} (result : Except ε α) : result.mapError id = result := by
  cases result <;> rfl

theorem document_answered {r : Except ManagementFailure (Option Json)} (ends : (client.document peer request).Ends log r)
    (answered : ⟨.send asked port credentials sent, .ok response⟩ ∈ log) :
    sent = request ∧ log = [⟨.send asked port credentials sent, .ok response⟩] ∧ r = response.payload sent.path := by
  unfold document send at ends
  split at ends
  · rcases ends_bind.mp ends with ⟨e, failed, rfl⟩ | ⟨_, first, rest, rfl, failed, -⟩
    · rw [(ends_fail.mp failed).1] at answered
      cases answered
    · cases (ends_fail.mp failed).2
  · rcases ends_bind.mp ends with ⟨e, failed, rfl⟩ | ⟨reading, first, rest, rfl, came, read⟩
    · obtain ⟨reply, rest, rfl, refused⟩ := ends_call_bind.mp failed
      obtain ⟨rfl, same⟩ := ends_ofExcept.mp refused
      cases List.mem_singleton.mp answered
      cases same
    · obtain ⟨reply, rest, rfl, accepted⟩ := ends_call_bind.mp came
      obtain ⟨rfl, same⟩ := ends_ofExcept.mp accepted
      obtain ⟨rfl, rfl⟩ := ends_ofExcept.mp read
      rw [List.append_nil] at answered
      cases List.mem_singleton.mp answered
      cases same
      exact ⟨rfl, rfl, mapError_id _⟩

theorem order_answered {r : Except ManagementFailure Unit} (ends : (client.order peer request).Ends log r)
    (answered : ⟨.send asked port credentials sent, .ok response⟩ ∈ log) :
    log = [⟨.send asked port credentials sent, .ok response⟩] ∧ r = (response.payload sent.path).map fun _ => () := by
  rcases ends_bind.mp ends with ⟨e, failed, rfl⟩ | ⟨document, first, rest, rfl, came, done⟩
  · obtain ⟨-, only, same⟩ := document_answered failed answered
    rw [← same]
    exact ⟨only, rfl⟩
  · obtain ⟨rfl, rfl⟩ := ends_pure.mp done
    rw [List.append_nil] at answered ⊢
    obtain ⟨-, only, same⟩ := document_answered came answered
    rw [← same]
    exact ⟨only, rfl⟩

theorem ask_answered {α : Type} {read? : Json → Option α} {r : Except ManagementFailure α}
    (ends : (client.ask peer request read?).Ends log r)
    (answered : ⟨.send asked port credentials sent, .ok response⟩ ∈ log) :
    sent = request ∧ log = [⟨.send asked port credentials sent, .ok response⟩] ∧
      r = (response.payload sent.path).bind (Response.decode sent.path read?) := by
  rcases ends_bind.mp ends with ⟨e, failed, rfl⟩ | ⟨document, first, rest, rfl, came, read⟩
  · obtain ⟨rfl, only, same⟩ := document_answered failed answered
    rw [← same]
    exact ⟨rfl, only, rfl⟩
  · obtain ⟨rfl, rfl⟩ := ends_ofExcept.mp read
    rw [List.append_nil] at answered ⊢
    obtain ⟨rfl, only, same⟩ := document_answered came answered
    rw [← same]
    exact ⟨rfl, only, mapError_id _⟩

end ManagementClient

namespace Job

variable {j k m : Job} {pace : JobPace} {c : Cluster} {client : ManagementClient} {now : Instant} {status : JobStatus}
  {ns : String} {r : Except Failure Action} {x : Exchange}

/-! ### What is written -/

theorem Becomes.of_unwritten (becomes : j.Becomes log k) (unwritten : Unwritten log) : k = j := by
  apply becomes.keeps (P := (· = j)) rfl
  intro x member m m' same affects
  subst same
  cases affects with
  | status ns name status reply read => exact absurd rfl (unwritten _ member ns _)
  | deferral ns name attempts retryAt reply written => exact absurd rfl (unwritten _ member ns _)
  | finalizers ns name edits reply finalizers => exact absurd rfl (unwritten _ member ns _)
  | failed ns w e => rfl
  | other _ => rfl

theorem becomes_append : j.Becomes (first ++ rest) k ↔ ∃ m, j.Becomes first m ∧ m.Becomes rest k := by
  constructor
  · intro becomes
    induction first generalizing j with
    | nil => exact ⟨j, .nil j, becomes⟩
    | cons x first ih =>
        cases becomes with
        | cons affects others =>
            obtain ⟨m, before, after⟩ := ih others
            exact ⟨m, .cons affects before, after⟩
  · intro h
    obtain ⟨m, before, after⟩ := h
    exact before.append after

theorem Becomes.after (becomes : j.Becomes (first ++ rest) k) (unwritten : Unwritten first) : j.Becomes rest k := by
  obtain ⟨m, before, later⟩ := becomes_append.mp becomes
  rw [← before.of_unwritten unwritten]
  exact later

theorem writeStatus_asks {P : Call → Prop} (writes : ∀ ns, P (.write ns (.jobStatus j.name status))) :
    (j.writeStatus status).Asks P := by
  unfold writeStatus
  split
  · exact asks_pure
  · exact asks_bind asks_ofExcept fun ns => Pass.write_asks (writes ns)

theorem writeStatus_records {next : Unit → Pass Action} (place : j.placed = .ok ns)
    (ends : Ends (j.writeStatus status >>= next) log r) (succeed : WritesSucceed log) :
    ∃ written rest, log = written ++ rest ∧ (next ()).Ends rest r ∧
      ∀ k, j.Becomes written k → k = { j with status := some status } := by
  unfold writeStatus at ends
  split at ends
  · next same =>
    refine ⟨[], log, rfl, ends_pure_bind.mp ends, ?_⟩
    intro k becomes
    cases becomes
    have known : j.status = some status := by simpa using same
    rw [← known]
  · rcases ends_bind.mp ends with ⟨e, failed, rfl⟩ | ⟨_, written, rest, rfl, came, follows⟩
    · rcases ends_ofExcept_bind.mp failed with ⟨_, unplaced, -, -⟩ | ⟨ns', place', writes⟩
      · cases place.symm.trans unplaced
      · obtain ⟨reply, more, rfl, refused⟩ := ends_call_bind.mp writes
        obtain ⟨answer, rfl⟩ := succeed _ _ _ List.mem_cons_self
        cases (ends_ofExcept.mp refused).2
    · rcases ends_ofExcept_bind.mp came with ⟨_, unplaced, -, -⟩ | ⟨ns', place', writes⟩
      · cases place.symm.trans unplaced
      · obtain ⟨reply, more, rfl, accepted⟩ := ends_call_bind.mp writes
        obtain ⟨rfl, -⟩ := ends_ofExcept.mp accepted
        obtain ⟨answer, rfl⟩ := succeed _ _ _ List.mem_cons_self
        refine ⟨_, rest, rfl, follows, ?_⟩
        intro k becomes
        cases becomes with
        | cons affects others =>
            cases others
            cases affects with
            | status _ _ _ _ read =>
                cases read.symm.trans (ofJson?_toJson status)
                rfl
            | other unwritten => exact absurd rfl (unwritten _ _)

theorem writeStatus_lasts {next : Unit → Pass Action} (place : j.placed = .ok ns)
    (ends : Ends (j.writeStatus status >>= next) log r) (succeed : WritesSucceed log)
    (later : (next ()).Asks fun c => ∀ ns w, c ≠ .write ns w) (becomes : j.Becomes log k) :
    k = { j with status := some status } ∧ ∃ rest, (next ()).Ends rest r := by
  obtain ⟨written, rest, rfl, follows, records⟩ := writeStatus_records place ends succeed
  obtain ⟨m, before, after⟩ := becomes_append.mp becomes
  rw [after.of_unwritten (later.call_of_mem follows)]
  exact ⟨records m before, rest, follows⟩

theorem records_and_tells {type : EventType} {reason text : String} {action : Action} (place : j.placed = .ok ns)
    (ends : Ends (do
      j.writeStatus status
      Attempt.tell type reason text
      return action) log r) (succeed : WritesSucceed log) (becomes : j.Becomes log k) :
    r = .ok action ∧ k = { j with status := some status } := by
  have later : (Attempt.tell type reason text >>= fun _ => pure action : Pass Action).Asks
      fun c => ∀ ns w, c ≠ .write ns w :=
    asks_bind (asks_tell.mpr fun _ _ same => nomatch same) fun _ => asks_pure
  obtain ⟨same, rest, follows⟩ := writeStatus_lasts place ends succeed later becomes
  obtain ⟨more, rfl, done⟩ := ends_tell_bind.mp follows
  exact ⟨(ends_pure.mp done).2, same⟩

theorem writing_unsent {next : Unit → Pass Action} (later : ∀ done, (next done).Asks fun c => ¬ c.Sends)
    (ends : Ends (j.writeStatus status >>= next) log r) : ∀ x ∈ log, ¬ x.call.Sends :=
  Attempt.Asks.call_of_mem (asks_bind (writeStatus_asks fun _ => id) later) ends

theorem recording_unsent {type : EventType} {reason text : String} {action : Action}
    (ends : Ends (do
      j.writeStatus status
      Attempt.tell type reason text
      return action) log r) : ∀ x ∈ log, ¬ x.call.Sends := by
  apply writing_unsent _ ends
  intro _
  exact asks_bind (asks_tell.mpr id) fun _ => asks_pure

/-! ### How a pass settles -/

/-- How a pass ends after the job was driven: as that went, or with the job ended for what it asks. -/
inductive Settles (j : Job) : Except Failure Action → List Exchange → Except Failure Action → Prop where
  | driven (action : Action) : Settles j (.ok action) [] (.ok action)
  | failed {e : Failure} (now : Instant) (lasting : e.classify ≠ .precondition) :
      Settles j (.error e) [⟨.clock, now⟩] (.error e)
  | ended {e : Failure} {now : Instant} {rest : List Exchange} {r : Except Failure Action}
      (refused : e.classify = .precondition)
      (writes : Ends (do
        j.writeStatus (j.currentStatus.markFailed e.message now)
        Attempt.tell .warning "RebalanceFailed" e.message
        return .await) rest r) : Settles j (.error e) (⟨.clock, now⟩ :: rest) r

theorem apply_ends (ends : (j.apply pace).Ends log r) : ∃ first rest result, log = first ++ rest ∧
    (j.drive pace).Ends first result ∧ j.Settles result rest r := by
  obtain ⟨result, first, rest, rfl, drives, settles⟩ := ends_outcome_bind.mp ends
  refine ⟨first, rest, result, rfl, drives, ?_⟩
  cases result with
  | ok action =>
      obtain ⟨rfl, rfl⟩ := ends_pure.mp settles
      exact .driven action
  | error e =>
      obtain ⟨now, more, rfl, follows⟩ := ends_now_bind.mp settles
      cases settled : j.settled? e now with
      | none =>
          rw [settled] at follows
          obtain ⟨rfl, rfl⟩ := ends_fail.mp follows
          refine .failed now ?_
          intro refused
          cases settled.symm.trans (settled?_eq_some.mpr ⟨refused, rfl⟩)
      | some status =>
          rw [settled] at follows
          obtain ⟨refused, rfl⟩ := settled?_eq_some.mp settled
          exact .ended refused follows

theorem Settles.unsent {result : Except Failure Action} (settles : j.Settles result log r) :
    ∀ x ∈ log, ¬ x.call.Sends := by
  cases settles with
  | driven action => exact fun _ member => nomatch member
  | failed now lasting =>
      intro x member sends
      cases List.mem_singleton.mp member
      exact sends
  | ended refused writes =>
      intro x member
      rcases List.mem_cons.mp member with rfl | later
      · exact fun sends => sends
      · exact recording_unsent writes x later

/-! ### How a pass goes on -/

theorem signIn_looks {r : Except Failure ManagementClient} (signed : (Pass.access c.signIn).Ends log r) :
    ∀ y ∈ log, y.call.Looks :=
  Attempt.Asks.call_of_mem (asks_mapFailure (Cluster.signIn_asks fun _ _ => trivial)) signed

theorem onCluster_goes {cluster : Option Cluster} {next : JobPace → Cluster → ManagementClient → Instant → Pass Action}
    (ends : (drive.onCluster j pace cluster next).Ends log r) : (∀ y ∈ log, y.call.Looks) ∨
      ∃ c client now first mid, cluster = some c ∧ log = first ++ mid ∧ (∀ y ∈ first, y.call.Looks) ∧
        (next pace c client now).Ends mid r := by
  unfold drive.onCluster at ends
  split at ends
  · obtain ⟨rfl, -⟩ := ends_fail.mp ends
    exact .inl (List.forall_mem_nil _)
  · next c =>
    rcases ends_bind.mp ends with ⟨_, failed, -⟩ | ⟨client, first, rest, rfl, signed, looks⟩
    · exact .inl (signIn_looks failed)
    · obtain ⟨now, mid, rfl, follows⟩ := ends_now_bind.mp looks
      refine .inr ⟨c, client, now, first ++ [⟨.clock, now⟩], mid, rfl, by simp, ?_, follows⟩
      simpa [or_imp, forall_and, Call.Looks] using signIn_looks signed

theorem drive_goes (ends : (j.drive pace).Ends log r) (member : x ∈ log) (sends : x.call.Sends) :
    ∃ ns c client now first mid, j.placed = .ok ns ∧ log = first ++ mid ∧ (∀ y ∈ first, y.call.Looks) ∧
      ((j.phase? = none ∧ (j.begin pace c client now).Ends mid r) ∨
        (j.phase? = some .processing ∧ (j.poll pace c client now).Ends mid r)) := by
  unfold drive Job.decided at ends
  rcases ends_ofExcept_bind.mp ends with ⟨_, -, rfl, -⟩ | ⟨ns, place, placed⟩
  · cases member
  obtain ⟨reply, rest, rfl, looked⟩ := ends_call_bind.mp placed
  rcases ends_ofExcept_bind.mp looked with ⟨_, -, rfl, -⟩ | ⟨cluster, shown, goes⟩
  · cases List.mem_singleton.mp member
    exact sends.elim
  obtain ⟨listed, rest, rfl, heard⟩ := ends_call_bind.mp goes
  have around : ∀ y ∈ ([⟨.getCluster ns j.spec.instanceName, reply⟩, ⟨.listJobs ns, listed⟩] : List Exchange),
      y.call.Looks := by simp [Call.Looks]
  -- what only looks around asks no replica
  have asks : ¬ ∀ y ∈ rest, y.call.Looks := by
    intro looks
    refine absurd sends (Call.Looks.unsent ?_)
    rcases List.mem_append.mp (show x ∈ [_, _] ++ rest from member) with early | late
    · exact around x early
    · exact looks x late
  rcases ends_ofExcept_bind.mp heard with ⟨_, -, rfl, -⟩ | ⟨jobs, -, decides⟩
  · exact absurd (List.forall_mem_nil _) asks
  rcases ends_ofExcept_bind.mp decides with ⟨_, -, rfl, -⟩ | ⟨step, decided, follows⟩
  · exact absurd (List.forall_mem_nil _) asks
  cases step with
  | terminal =>
      obtain ⟨rfl, -⟩ := ends_pure.mp follows
      exact absurd (List.forall_mem_nil _) asks
  | waitForCluster =>
      obtain ⟨rfl, -⟩ := ends_pure.mp follows
      exact absurd (List.forall_mem_nil _) asks
  | start =>
      rcases onCluster_goes follows with looks | ⟨c, client, now, first, mid, rfl, rfl, looks, begins⟩
      · exact absurd looks asks
      · refine ⟨ns, c, client, now, [_, _] ++ first, mid, place, rfl, ?_, .inl ⟨(precheck_start decided).1, begins⟩⟩
        exact List.forall_mem_append.mpr ⟨around, looks⟩
  | poll =>
      rcases onCluster_goes follows with looks | ⟨c, client, now, first, mid, rfl, rfl, looks, polls⟩
      · exact absurd looks asks
      · refine ⟨ns, c, client, now, [_, _] ++ first, mid, place, rfl, ?_, .inr ⟨precheck_poll decided, polls⟩⟩
        exact List.forall_mem_append.mpr ⟨around, looks⟩

/-- A pass over a job that stays, once it has asked a replica: what it did before, how it went on and how that was
settled. -/
theorem pass_goes (stage : j.stage = .apply) (ends : (j.pass pace).Ends log r) (member : x ∈ log)
    (sends : x.call.Sends) : ∃ ns c client now first mid rest result final,
      j.placed = .ok ns ∧ log = first ++ (mid ++ rest) ∧ (∀ y ∈ first, y.call.Looks) ∧ x ∈ mid ∧
      ((j.phase? = none ∧ (j.begin pace c client now).Ends mid result) ∨
        (j.phase? = some .processing ∧ (j.poll pace c client now).Ends mid result)) ∧
      j.Settles result rest final ∧ r = final.mapError .applying := by
  unfold pass at ends
  rcases ends_ofExcept_bind.mp ends with ⟨_, -, rfl, -⟩ | ⟨ns, place, staged⟩
  · cases member
  rw [stage] at staged
  obtain ⟨final, applies, rfl⟩ := ends_mapFailure.mp staged
  obtain ⟨driven, rest, result, rfl, drives, settles⟩ := apply_ends applies
  have early : x ∈ driven := (List.mem_append.mp member).resolve_right fun late => settles.unsent x late sends
  obtain ⟨_, c, client, now, first, mid, place', rfl, looks, goes⟩ := drive_goes drives early sends
  refine ⟨_, c, client, now, first, mid, rest, result, final, place', by simp, looks, ?_, goes, settles, rfl⟩
  exact (List.mem_append.mp early).resolve_left fun looking => (looks x looking).unsent sends

end Job

end BrokerFleet
