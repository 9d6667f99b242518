import BrokerFleet.Proofs.Job.Stopping
import BrokerFleet.Proofs.Time.Rfc3339

/-!
How long an attempt to stop a job is put off. The time of the next attempt is noted to the second, so it is put off
until the second begins in which it is due, and may be made earlier than it is due by less than a second.
-/

namespace BrokerFleet

open Kubernetes Attempt

theorem Instant.leapsAtMinute_after {t : Instant} (leaps : t.LeapsAtMinute) (delay : Span) :
    (t.after delay).LeapsAtMinute := by
  unfold Instant.after Instant.add
  dsimp only
  split
  · split
    · exact .inl (Nat.mod_lt _ (by decide))
    · next leap =>
      split
      · exact .inr (leaps.resolve_left leap)
      · exact .inl (Nat.mod_lt _ (by decide))
  · exact leaps

theorem Instant.eq_after {t due : Instant} {delay : Span} (next : t.after? delay = some due) : due = t.after delay := by
  unfold Instant.after? at next
  split at next
  · exact (Option.some.inj next).symm
  · cases next

namespace Job

variable {j k : Job} {pace pace' : JobPace} {log log' : List Exchange} {r : Except Failure Action}
  {now later due : Instant} {delay : Span} {n attempts : Nat}

theorem stopDeferral?_deferred (plain : due.HasPlainYear) (leaps : due.LeapsAtMinute) :
    (j.deferred attempts (Rfc3339.format due)).stopDeferral? later = due.wholeSeconds.remaining? later := by
  have noted : (j.deferred attempts (Rfc3339.format due)).metadata.annotation? stopRetryAtKey =
      some (Rfc3339.format due) := Labels.get?_set
  unfold stopDeferral?
  rw [noted, Option.bind_eq_bind, Option.bind_some, Rfc3339.parse?_format plain leaps]
  rfl

theorem deferred_of_putOff (ends : j.CleansUp pace (⟨.clock, now⟩ :: log) (.error (.stopDeferred n delay)))
    (fails : j.FailsToStop (⟨.clock, now⟩ :: log)) (becomes : j.Becomes (⟨.clock, now⟩ :: log) k) :
    n < pace.stopLimit ∧ delay = backoff pace.retry pace.steady n ∧
      k = j.deferred n (Rfc3339.format (now.after delay)) := by
  generalize same : (⟨.clock, now⟩ :: log : List Exchange) = all at ends fails becomes
  generalize result : (.error (.stopDeferred n delay) : Except Failure Action) = r at ends
  cases ends with
  | early _ =>
      obtain ⟨_, _, _, _, _, _, looks, -⟩ := fails
      cases (List.cons.inj looks).2
  | putOff now' attempt few next =>
      cases result
      cases (List.cons.inj same).1
      obtain rfl := Instant.eq_after next
      refine ⟨few, rfl, ?_⟩
      rw [← List.append_assoc] at becomes
      exact becomes.deferred (List.forall_mem_append.mpr ⟨looksUp_unwritten, stop_unwritten attempt⟩)
  | _ => cases result

theorem cleanUp_early_iff (ends : (j.cleanUp pace).Ends (⟨.clock, now⟩ :: log) r) {left : Span} :
    j.stopDeferral? now = some left ↔ log = [] ∧ r = .error (.stopDeferred j.stopAttempts left) := by
  unfold cleanUp at ends
  split at ends
  · cases (ends_pure.mp ends).1
  · obtain ⟨read, rest, same, looked⟩ := ends_now_bind.mp ends
    cases same
    cases deferral : j.stopDeferral? now with
    | some known =>
        rw [deferral] at looked
        obtain ⟨rfl, rfl⟩ := ends_fail.mp looked
        constructor
        · rintro ⟨⟩
          exact ⟨rfl, rfl⟩
        · rintro ⟨-, ⟨⟩⟩
          rfl
    | none =>
        rw [deferral] at looked
        refine iff_of_false nofun ?_
        rintro ⟨rfl, rfl⟩
        rcases ends_ofExcept_bind.mp looked with ⟨e, -, -, ⟨⟩⟩ | ⟨ns, -, placed⟩
        obtain ⟨_, _, asked, -⟩ := ends_call_bind.mp placed
        cases asked

/-! ### The next attempt -/

/-- After a cleanup that failed to stop the run and put the next attempt off, a cleanup of the job that is left is
put off exactly until the second begins in which the attempt is due; until then it makes no call after it read the
clock. -/
theorem put_off_until_the_second (fits : pace.stopLimit < UInt32.size) (leaps : now.LeapsAtMinute)
    (ends : (j.cleanUp pace).Ends (⟨.clock, now⟩ :: log) (.error (.stopDeferred n delay)))
    (fails : j.FailsToStop (⟨.clock, now⟩ :: log)) (becomes : j.Becomes (⟨.clock, now⟩ :: log) k)
    (plain : (now.after delay).HasPlainYear) (again : (k.cleanUp pace').Ends (⟨.clock, later⟩ :: log') r) :
    delay = backoff pace.retry pace.steady n ∧ ∀ left,
      (now.after delay).wholeSeconds.remaining? later = some left ↔ log' = [] ∧ r = .error (.stopDeferred n left) := by
  obtain ⟨few, paced, rfl⟩ := deferred_of_putOff (cleanUp_ends ends) fails becomes
  refine ⟨paced, fun left => ?_⟩
  have early : (j.deferred n _).stopDeferral? later = some left ↔ _ := cleanUp_early_iff again
  rwa [stopDeferral?_deferred plain (Instant.leapsAtMinute_after leaps delay),
    stopAttempts_deferred_of_lt (Nat.lt_trans few fits)] at early

theorem cleanUp_early (processing : j.phase? = some .processing) {left : Span}
    (early : j.stopDeferral? now = some left) :
    (j.cleanUp pace).Ends [⟨.clock, now⟩] (.error (.stopDeferred j.stopAttempts left)) := by
  unfold cleanUp
  rw [if_neg (not_not_intro processing)]
  refine ends_now_bind.mpr ⟨now, [], rfl, ?_⟩
  rw [early]
  exact .done _

def quickPace : JobPace := ⟨⟨.ofSeconds 30, .ofMillis 250⟩, 5⟩

def sampleMoment (millis : Nat) : Instant := ⟨1714564800, millis * 1000000⟩

/-- An attempt that is due at a full second is put off until then. -/
theorem put_off_until_due : ∃ (j k : Job) (pace : JobPace) (log log' : List Exchange) (delay left : Span)
    (now later : Instant) (r : Except Failure Action), pace.stopLimit < UInt32.size ∧ now.LeapsAtMinute ∧
    (j.cleanUp pace).Ends (⟨.clock, now⟩ :: log) (.error (.stopDeferred 1 delay)) ∧
    j.FailsToStop (⟨.clock, now⟩ :: log) ∧ j.Becomes (⟨.clock, now⟩ :: log) k ∧
    (now.after delay).HasPlainYear ∧ (k.cleanUp pace).Ends (⟨.clock, later⟩ :: log') r ∧
    (now.after delay).wholeSeconds = now.add delay ∧ (now.after delay).wholeSeconds.remaining? later = some left ∧
    log' = [] ∧ r = .error (.stopDeferred 1 left) := by
  let now := sampleMoment 500
  let later := sampleMoment 700
  obtain ⟨first, fails, becomes⟩ := sample_puts_off quickPace now (by decide) (by decide +kernel)
  have plain : (now.after (backoff quickPace.retry quickPace.steady 1)).HasPlainYear := by decide +kernel
  have early : (putOffJob quickPace now).stopDeferral? later = some (.ofMillis 300) := by decide +kernel
  have again : ((putOffJob quickPace now).cleanUp quickPace).Ends [⟨.clock, later⟩] _ := cleanUp_early rfl early
  have left : (now.after (backoff quickPace.retry quickPace.steady 1)).wholeSeconds.remaining? later =
      some (.ofMillis 300) := by decide +kernel
  have ended := ((put_off_until_the_second (by decide) (.inl (by decide)) first fails becomes plain again).2 _).mp left
  exact ⟨_, _, quickPace, _, _, _, _, now, later, _, by decide, .inl (by decide), first, fails, becomes, plain, again,
    by decide +kernel, left, ended⟩

/-- No attempt is made before it is due. -/
def RespectsBackoff : Prop :=
  ∀ (j k : Job) (pace pace' : JobPace) (log log' : List Exchange) (n : Nat) (delay : Span) (now later : Instant)
    (r : Except Failure Action),
    (j.cleanUp pace).Ends (⟨.clock, now⟩ :: log) (.error (.stopDeferred n delay)) →
    j.FailsToStop (⟨.clock, now⟩ :: log) → j.Becomes (⟨.clock, now⟩ :: log) k →
    (k.cleanUp pace').Ends (⟨.clock, later⟩ :: log') r → 0 ≤ later.nanosSince now →
    0 < (now.add delay).nanosSince later → (∀ x ∈ log', ¬ x.call.Stops) ∧ ∃ left, r = .error (.stopDeferred n left)

/-- An attempt that is due half a second after a tenth of a second is made after a fifth of a second. -/
theorem stopped_before_due : ¬ RespectsBackoff := by
  intro respects
  let now := sampleMoment 100
  let later := sampleMoment 300
  obtain ⟨first, fails, becomes⟩ := sample_puts_off quickPace now (by decide) (by decide +kernel)
  have due : (putOffJob quickPace now).stopDeferral? later = none := by decide +kernel
  have sendable : Net.Target.pathFault? (ManagementRequest.stopRebalance sampleNode).path = none := by decide +kernel
  have stops := stop_succeeds (j := putOffJob quickPace now) rfl credentialsOf_sample coordinator_sample sendable
    (Response.payload_of_document plainAnswer_reads.1 rfl)
  have again : ((putOffJob quickPace now).cleanUp quickPace).Ends _ _ := cleanUp_stops rfl due rfl stops
  obtain ⟨silent, -⟩ := respects _ _ quickPace quickPace _ _ 1 _ now later _ first fails becomes again (by decide)
    (by decide +kernel)
  -- The cluster and its secret are looked up, and then the order is given.
  exact silent _ (List.mem_cons_of_mem _ (List.mem_cons_of_mem _ List.mem_cons_self)) trivial

end Job

end BrokerFleet
