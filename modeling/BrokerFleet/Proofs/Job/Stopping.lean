import BrokerFleet.Proofs.Job.Release

/-!
How a deleted job is cleaned up. A cleanup ends in one of ten ways, each with its own exchanges; one that fails to
stop the run notes one more attempt and puts the next one off, or gives up. So there are only as many attempts that
fail as may, however often the job is looked at and whatever fails in between.
-/

namespace BrokerFleet

open Json Kubernetes Attempt

theorem Pass.ends_write_bind {β : Type} {ns : String} {w : Write} {f : w.Answer → Pass β} {log : List Exchange}
    {r : Except Failure β} : (Pass.write ns w >>= f).Ends log r ↔
      (∃ e, log = [⟨.write ns w, .error e⟩] ∧ r = .error (.access (.api e))) ∨
      ∃ answer rest, log = ⟨.write ns w, .ok answer⟩ :: rest ∧ (f answer).Ends rest r := by
  have asks : (Pass.write ns w >>= f).Ends log r ↔
      ∃ reply rest, log = ⟨.write ns w, reply⟩ :: rest ∧ (Pass.api reply >>= f).Ends rest r := ends_call_bind
  rw [asks]
  constructor
  · intro h
    obtain ⟨reply, rest, rfl, goes⟩ := h
    rcases ends_ofExcept_bind.mp goes with ⟨e, rfl, rfl, rfl⟩ | ⟨answer, rfl, follows⟩
    · exact .inl ⟨e, rfl, rfl⟩
    · exact .inr ⟨answer, rest, rfl, follows⟩
  · intro h
    rcases h with ⟨e, rfl, rfl⟩ | ⟨answer, rest, rfl, follows⟩
    · exact ⟨.error e, [], rfl, ends_ofExcept_bind.mpr (.inl ⟨e, rfl, rfl, rfl⟩)⟩
    · exact ⟨.ok answer, rest, rfl, ends_ofExcept_bind.mpr (.inr ⟨answer, rfl, follows⟩)⟩

namespace Job

variable {j j₀ k m : Job} {pace : JobPace} {log part rest : List Exchange} {passes : List (Job × List Exchange)}
  {r : Except Failure Action} {ns : String} {now : Instant} {c : Cluster} {e : Failure} {n : Nat}
  {result : Except Failure Unit}

def looksUp (j : Job) (now : Instant) (ns : String) (looked : Except ApiError Cluster) : List Exchange :=
  [⟨.clock, now⟩, ⟨.getCluster ns j.spec.instanceName, looked⟩]

def Attempts (j : Job) (log : List Exchange) (result : Except Failure Unit) : Prop :=
  ∃ now ns c part rest, log = j.looksUp now ns (.ok c) ++ (part ++ rest) ∧ (j.stop c).Ends part result

def FailsToStop (j : Job) (log : List Exchange) : Prop :=
  ∃ e, j.Attempts log (.error e)

/-- The ways in which a cleanup ends, by the exchanges that it made. -/
inductive CleansUp (j : Job) (pace : JobPace) : List Exchange → Except Failure Action → Prop where
  | idle (quiet : j.phase? ≠ some .processing) : CleansUp j pace [] (.ok .await)
  | early {now : Instant} {left : Span} (deferred : j.stopDeferral? now = some left) :
      CleansUp j pace [⟨.clock, now⟩] (.error (.stopDeferred j.stopAttempts left))
  | unplaced (now : Instant) {e : ObjectFailure} (place : j.placed = .error e) :
      CleansUp j pace [⟨.clock, now⟩] (.error (.object e))
  | unseen (now : Instant) {ns : String} {e : ApiError} (other : e.isNotFound = false) :
      CleansUp j pace (j.looksUp now ns (.error e)) (.error (.access (.api e)))
  | missing (now : Instant) {ns : String} {e : ApiError} (place : j.placed = .ok ns) (gone : e.isNotFound = true) :
      CleansUp j pace (j.looksUp now ns (.error e)) (.ok .await)
  | stopped (now : Instant) {ns : String} {c : Cluster} {part : List Exchange} (stops : (j.stop c).Ends part (.ok ())) :
      CleansUp j pace (j.looksUp now ns (.ok c) ++ part) (.ok .await)
  | abandoned (now : Instant) {ns : String} {c : Cluster} {part : List Exchange} {e : Failure} (event : Event)
      (fails : (j.stop c).Ends part (.error e)) (often : pace.stopLimit ≤ j.nextAttempt) :
      CleansUp j pace (j.looksUp now ns (.ok c) ++ (part ++ [⟨.tell event, ()⟩])) (.ok .await)
  | overrun (now : Instant) {ns : String} {c : Cluster} {part : List Exchange} {e : Failure}
      (fails : (j.stop c).Ends part (.error e)) (few : j.nextAttempt < pace.stopLimit)
      (ended : now.after? (backoff pace.retry pace.steady j.nextAttempt) = none) :
      CleansUp j pace (j.looksUp now ns (.ok c) ++ part) (.error calendarOver)
  | putOff (now : Instant) {ns : String} {c : Cluster} {part : List Exchange} {e : Failure} {due : Instant}
      (fails : (j.stop c).Ends part (.error e)) (few : j.nextAttempt < pace.stopLimit)
      (next : now.after? (backoff pace.retry pace.steady j.nextAttempt) = some due) :
      CleansUp j pace (j.looksUp now ns (.ok c) ++
          (part ++ [⟨.write ns (.deferStop j.name j.nextAttempt (Rfc3339.format due)), .ok ()⟩]))
        (.error (.stopDeferred j.nextAttempt (backoff pace.retry pace.steady j.nextAttempt)))
  | unnoted (now : Instant) {ns : String} {c : Cluster} {part : List Exchange} {e : Failure} (due : Instant)
      (e' : ApiError) (fails : (j.stop c).Ends part (.error e)) (few : j.nextAttempt < pace.stopLimit) :
      CleansUp j pace (j.looksUp now ns (.ok c) ++
          (part ++ [⟨.write ns (.deferStop j.name j.nextAttempt (Rfc3339.format due)), .error e'⟩]))
        (.error (.access (.api e')))

/-! ### One cleanup -/

theorem stopFailed_ends (ends : (j.stopFailed pace ns now e).Ends log r) (fails : (j.stop c).Ends part (.error e)) :
    j.CleansUp pace (j.looksUp now ns (.ok c) ++ (part ++ log)) r := by
  unfold stopFailed at ends
  dsimp only at ends
  split at ends
  · next often =>
    obtain ⟨rest, rfl, done⟩ := ends_tell_bind.mp ends
    obtain ⟨rfl, rfl⟩ := ends_pure.mp done
    exact .abandoned now _ fails often
  · next few =>
    have few := Nat.lt_of_not_le few
    split at ends
    · next ended =>
      obtain ⟨rfl, rfl⟩ := ends_fail.mp ends
      rw [List.append_nil]
      exact .overrun now fails few ended
    · next due next =>
      rcases Pass.ends_write_bind.mp ends with ⟨e', rfl, rfl⟩ | ⟨⟨⟩, rest, rfl, fell⟩
      · exact .unnoted now due e' fails few
      · obtain ⟨rfl, rfl⟩ := ends_fail.mp fell
        exact .putOff now fails few next

theorem cleanUp_ends (ends : (j.cleanUp pace).Ends log r) : j.CleansUp pace log r := by
  unfold cleanUp at ends
  split at ends
  · next quiet =>
    obtain ⟨rfl, rfl⟩ := ends_pure.mp ends
    exact .idle quiet
  · obtain ⟨now, rest, rfl, looked⟩ := ends_now_bind.mp ends
    split at looked
    · next deferred =>
      obtain ⟨rfl, rfl⟩ := ends_fail.mp looked
      exact .early deferred
    · rcases ends_ofExcept_bind.mp looked with ⟨e, place, rfl, rfl⟩ | ⟨ns, place, placed⟩
      · exact .unplaced now place
      · obtain ⟨reply, more, rfl, asked⟩ := ends_call_bind.mp placed
        cases reply with
        | error e =>
            unfold Pass.optional ApiError.orMissing at asked
            dsimp only at asked
            split at asked
            · next gone =>
              obtain ⟨rfl, rfl⟩ := ends_pure.mp asked
              exact .missing now place gone
            · next other =>
              obtain ⟨rfl, rfl⟩ := ends_fail.mp asked
              exact .unseen now (Bool.eq_false_iff.mpr other)
        | ok c =>
            obtain ⟨result, part, last, rfl, stops, settles⟩ := ends_outcome_bind.mp asked
            cases result with
            | ok _ =>
                obtain ⟨rfl, rfl⟩ := ends_pure.mp settles
                rw [List.append_nil]
                exact .stopped now stops
            | error e => exact stopFailed_ends settles stops

theorem stop_unwritten (stops : (j.stop c).Ends log result) : ∀ x ∈ log, ∀ ns w, x.call ≠ .write ns w := by
  have asks : (j.stop c).Asks fun call => ∀ ns w, call ≠ .write ns w := by
    unfold stop
    refine asks_bind (asks_mapFailure (Cluster.signIn_asks fun _ _ _ _ same => nomatch same)) fun _ => ?_
    exact asks_bind asks_ofExcept fun _ => asks_mapFailure (ManagementClient.order_asks fun _ _ same => nomatch same)
  exact asks.call_of_mem stops

theorem looksUp_unwritten {looked : Except ApiError Cluster} :
    ∀ x ∈ j.looksUp now ns looked, ∀ ns w, x.call ≠ .write ns w := by
  intro x member
  rcases List.mem_pair.mp member with rfl | rfl
  · exact fun _ _ same => nomatch same
  · exact fun _ _ same => nomatch same

/-- All that was written is that one more attempt failed; this was heard of it. -/
def Notes (j : Job) (log : List Exchange) (reply : Except ApiError Unit) : Prop :=
  ∃ before ns retryAt, log = before ++ [⟨.write ns (.deferStop j.name j.nextAttempt retryAt), reply⟩] ∧
    ∀ x ∈ before, ∀ ns w, x.call ≠ .write ns w

theorem cleanUp_puts_off (processing : j.phase? = some .processing) (due : j.stopDeferral? now = none)
    (place : j.placed = .ok ns) (fails : (j.stop c).Ends part (.error e)) (few : j.nextAttempt < pace.stopLimit)
    {retryAt : Instant} (next : now.after? (backoff pace.retry pace.steady j.nextAttempt) = some retryAt) :
    (j.cleanUp pace).Ends (j.looksUp now ns (.ok c) ++
        (part ++ [⟨.write ns (.deferStop j.name j.nextAttempt (Rfc3339.format retryAt)), .ok ()⟩]))
      (.error (.stopDeferred j.nextAttempt (backoff pace.retry pace.steady j.nextAttempt))) := by
  unfold cleanUp Pass.object stopFailed
  rw [if_neg (not_not_intro processing), place]
  refine ends_now_bind.mpr ⟨now, _, rfl, ?_⟩
  rw [due]
  refine ends_ofExcept_bind.mpr (.inr ⟨ns, rfl, ?_⟩)
  refine ends_call_bind.mpr ⟨.ok c, _, rfl, ?_⟩
  refine ends_ofExcept_bind.mpr (.inr ⟨some c, rfl, ?_⟩)
  refine ends_outcome_bind.mpr ⟨.error e, part, _, rfl, fails, ?_⟩
  dsimp only
  rw [if_neg (Nat.not_le_of_lt few), next]
  exact Pass.ends_write_bind.mpr (.inr ⟨(), [], rfl, .done _⟩)

/-! ### One cleanup after the other -/

theorem Becomes.unwritten (becomes : j.Becomes log k) (unwritten : ∀ x ∈ log, ∀ ns w, x.call ≠ .write ns w) :
    k = j := by
  refine becomes.keeps (P := fun m => m = j) rfl ?_
  intro x member m m' held affects
  cases affects with
  | status _ _ _ _ _ => exact absurd rfl (unwritten _ member _ _)
  | deferral _ _ _ _ _ _ => exact absurd rfl (unwritten _ member _ _)
  | finalizers _ _ _ _ _ => exact absurd rfl (unwritten _ member _ _)
  | failed _ _ _ => exact absurd rfl (unwritten _ member _ _)
  | other _ => exact held

theorem Becomes.split {more : List Exchange} (becomes : j.Becomes (log ++ more) k) :
    ∃ m, j.Becomes log m ∧ m.Becomes more k := by
  induction log generalizing j with
  | nil => exact ⟨j, .nil j, becomes⟩
  | cons x log ih =>
      cases becomes with
      | cons affects rest =>
          obtain ⟨m, first, later⟩ := ih rest
          exact ⟨m, .cons affects first, later⟩

theorem Becomes.deferred {name retryAt : String} {attempts : Nat}
    (becomes : j.Becomes (log ++ [⟨.write ns (.deferStop name attempts retryAt), .ok ()⟩]) k)
    (unwritten : ∀ x ∈ log, ∀ ns w, x.call ≠ .write ns w) : k = j.deferred attempts retryAt := by
  obtain ⟨m, first, last⟩ := becomes.split
  cases first.unwritten unwritten
  cases last with
  | cons affects rest =>
      cases rest
      cases affects with
      | deferral _ _ _ _ _ written => exact written.deferred
      | other unwritten => exact absurd rfl (unwritten _ _)

theorem stopAttempts_deferred_of_lt {attempts : Nat} {retryAt : String} (fits : attempts < UInt32.size) :
    (j.deferred attempts retryAt).stopAttempts = attempts := by
  have readable : decide (attempts ≤ UInt32.size - 1) = true := decide_eq_true (Nat.le_sub_one_of_lt fits)
  rw [stopAttempts_noted, Option.filter_some, if_pos readable]
  rfl

theorem Notes.counted (notes : j.Notes log (.ok ())) (becomes : j.Becomes log k)
    (fits : j.stopAttempts + 1 < UInt32.size) : k.stopAttempts = j.stopAttempts + 1 := by
  obtain ⟨before, ns, retryAt, rfl, unwritten⟩ := notes
  rw [becomes.deferred unwritten, nextAttempt_of_lt fits]
  exact stopAttempts_deferred_of_lt fits

theorem CleansUp.unattempted (ends : j.CleansUp pace log (.error e)) (becomes : j.Becomes log k)
    (none : ¬ j.FailsToStop log) : k = j := by
  cases ends with
  | early _ => exact becomes.unwritten (List.forall_mem_singleton.mpr fun _ _ same => nomatch same)
  | unplaced _ _ => exact becomes.unwritten (List.forall_mem_singleton.mpr fun _ _ same => nomatch same)
  | unseen _ _ => exact becomes.unwritten looksUp_unwritten
  | overrun now fails _ _ => exact absurd ⟨_, now, _, _, _, _, by rw [List.append_nil], fails⟩ none
  | putOff now fails _ _ => exact absurd ⟨_, now, _, _, _, _, rfl, fails⟩ none
  | unnoted now _ _ fails _ => exact absurd ⟨_, now, _, _, _, _, rfl, fails⟩ none

def sampleUnsigned : List Exchange := [⟨.getSecret "default" runningCluster.secretName, .error .notFound⟩]

theorem sample_unsigned (j : Job) : (j.stop runningCluster).Ends sampleUnsigned
    (.error (.access (.noSecret runningCluster.secretName))) :=
  .ask _ (.done _)

theorem sample_fails_to_stop (j : Job) (now : Instant) (rest : List Exchange) :
    j.FailsToStop (j.looksUp now "default" (.ok runningCluster) ++ (sampleUnsigned ++ rest)) :=
  ⟨_, now, _, _, _, rest, rfl, sample_unsigned j⟩

def sampleDeferral (pace : JobPace) (now : Instant) : List Exchange :=
  (deletedJob (some startedStatus)).looksUp now "default" (.ok runningCluster) ++
    (sampleUnsigned ++ [⟨.write "default" (.deferStop "first" 1
      (Rfc3339.format (now.after (backoff pace.retry pace.steady 1)))), .ok ()⟩])

def putOffJob (pace : JobPace) (now : Instant) : Job :=
  (deletedJob (some startedStatus)).deferred 1 (Rfc3339.format (now.after (backoff pace.retry pace.steady 1)))

theorem sample_stored : ofJson? (toJson (deletedJob (some startedStatus))) = some (deletedJob (some startedStatus)) :=
  ofJson?_object.mpr ⟨rfl, rfl, congrArg (Option.map some) (ofJson?_toJson startedStatus)⟩

theorem sample_puts_off (pace : JobPace) (now : Instant) (few : 1 < pace.stopLimit)
    (within : (now.after (backoff pace.retry pace.steady 1)).seconds ≤ Instant.lastSecond) :
    ((deletedJob (some startedStatus)).cleanUp pace).Ends (sampleDeferral pace now)
      (.error (.stopDeferred 1 (backoff pace.retry pace.steady 1))) ∧
    (deletedJob (some startedStatus)).FailsToStop (sampleDeferral pace now) ∧
    (deletedJob (some startedStatus)).Becomes (sampleDeferral pace now) (putOffJob pace now) := by
  have unsigned := sample_unsigned (deletedJob (some startedStatus))
  refine ⟨cleanUp_puts_off rfl rfl rfl unsigned few (if_pos within), sample_fails_to_stop _ _ _, ?_⟩
  refine (becomes_unwritten looksUp_unwritten).append ((becomes_unwritten (stop_unwritten unsigned)).append ?_)
  exact .cons (.deferral _ _ _ _ _ (deferred_isWritten sample_stored)) (.nil _)

end Job

end BrokerFleet
