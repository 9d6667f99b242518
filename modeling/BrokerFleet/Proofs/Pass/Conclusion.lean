import BrokerFleet.Proofs.Conditions
import BrokerFleet.Proofs.Pass.Course

/-!
How a pass concludes. Its steps come through one after the other until one of them fails, one halts the pass, or none is
left; then the status that they had come to is settled, with a word on how the pass went, and stored unless the cluster
has it already. A failed step leaves nothing of its own in the status, and its failure is what the pass answers.
-/

namespace BrokerFleet

open Kubernetes Attempt

namespace Cluster

variable {c latest : Cluster} {pace : Pace} {p q : ClusterPass} {log : List Exchange}

/-! ### Where the steps end -/

theorem runSteps_failed {steps : List Step} {step : Step} {e : Failure} (going : p.halted = false) :
    (c.runSteps pace steps p).Yields log (q, some (step, e)) ↔
      ∃ earlier later before during, steps = earlier ++ step :: later ∧ log = before ++ during ∧
        c.Reaches pace earlier p before q ∧ (step.run c pace q).Ends during (.error e) := by
  constructor
  · intro run
    induction steps generalizing p log with
    | nil => cases (runSteps_nil.mp run).2
    | cons first rest ih =>
        rcases runSteps_cons.mp run with
          ⟨e', failed, same⟩ | ⟨next, -, -, same⟩ | ⟨next, head, others, rfl, taken, proceeds, follows⟩
        · cases same
          exact ⟨[], rest, [], log, rfl, rfl, ⟨runSteps_nil.mpr ⟨rfl, rfl⟩, going⟩, failed⟩
        · cases same
        · obtain ⟨earlier, later, before, during, rfl, rfl, came, failed⟩ := ih proceeds follows
          refine ⟨first :: earlier, later, head ++ before, during, rfl, (List.append_assoc ..).symm, ⟨?_, came.2⟩, failed⟩
          exact runSteps_cons.mpr (.inr (.inr ⟨next, head, before, rfl, taken, proceeds, came.1⟩))
  · rintro ⟨earlier, later, before, during, rfl, rfl, came, failed⟩
    exact came.append (runSteps_cons.mpr (.inl ⟨e, failed, rfl⟩))

/-! ### What becomes of the status -/

/-- The status is stored by these exchanges, and with what that ends: nothing is asked if the cluster has that status
already, nothing can be asked for a cluster without a namespace, and else it is asked for once. -/
inductive Stores (c : Cluster) (status : ClusterStatus) : List Exchange → Except Failure Unit → Prop where
  | same (has : c.status = some status) : Stores c status [] (.ok ())
  | unplaced {e : ObjectFailure} (other : c.status ≠ some status) (nowhere : c.placed = .error e) :
      Stores c status [] (.error (.object e))
  | asked {ns : String} (reply : Except ApiError Unit) (other : c.status ≠ some status) (place : c.placed = .ok ns) :
      Stores c status [⟨.write ns (.clusterStatus c.name status), reply⟩] (reply.mapError fun e => .access (.api e))

theorem writeStatus_ends_iff {status : ClusterStatus} {r : Except Failure Unit} :
    (c.writeStatus status).Ends log r ↔ c.Stores status log r := by
  unfold writeStatus
  constructor
  · intro h
    split at h
    · next same =>
      obtain ⟨rfl, rfl⟩ := ends_pure.mp h
      exact .same (beq_iff_eq.mp same)
    · next differs =>
      have other : c.status ≠ some status := fun same => differs (beq_iff_eq.mpr same)
      rcases ends_ofExcept_bind.mp h with ⟨e, nowhere, rfl, rfl⟩ | ⟨ns, place, sent⟩
      · exact .unplaced other nowhere
      · obtain ⟨reply, rest, rfl, answered⟩ := ends_call_bind.mp sent
        obtain ⟨rfl, rfl⟩ := ends_ofExcept.mp answered
        exact .asked reply other place
  · intro h
    cases h with
    | same has =>
        rw [if_pos (beq_iff_eq.mpr has)]
        exact ends_pure.mpr ⟨rfl, rfl⟩
    | unplaced other nowhere =>
        rw [if_neg fun same => other (beq_iff_eq.mp same)]
        exact ends_ofExcept_bind.mpr (.inl ⟨_, nowhere, rfl, rfl⟩)
    | asked reply other place =>
        rw [if_neg fun same => other (beq_iff_eq.mp same)]
        refine ends_ofExcept_bind.mpr (.inr ⟨_, place, ?_⟩)
        exact ends_call_bind.mpr ⟨reply, [], rfl, ends_ofExcept.mpr ⟨rfl, rfl⟩⟩

/-- The status that is settled says how the pass went, and which generation of the cluster was looked at; else it is what
the steps came to. -/
theorem settled_tells (latest : Cluster) (q : ClusterPass) (failure : Option (Step × Failure)) (now : Instant) :
    let status := latest.settled q failure now
    status = { q.status with
      conditions := status.conditions, observedGeneration := latest.metadata.generation } ∧
    (∃ a, status.conditions.find? Condition.reconciled = some a ∧
      a.saysSame (reconciledCondition failure q.requeue) = true) ∧
    ∀ a : Condition, a.type ≠ Condition.reconciled → (a ∈ status.conditions ↔ a ∈ q.status.conditions) := by
  have type : (reconciledCondition failure q.requeue).type = Condition.reconciled := by
    unfold reconciledCondition
    split <;> rfl
  refine ⟨rfl, ?_, fun a other => Conditions.mem_set_other (type ▸ other)⟩
  obtain ⟨a, found, agrees⟩ :=
    Conditions.find?_set q.status.conditions (reconciledCondition failure q.requeue) now
  rw [type] at found
  exact ⟨a, found, agrees⟩

/-! ### The whole pass -/

/-- How a pass over a cluster that is there to stay concludes, by which exchanges and with what. -/
inductive Concludes (c : Cluster) (pace : Pace) : List Exchange → Except Failure Action → Prop where
  /-- A step failed after others had come through: the status is the one that those came to, and the pass answers the
  failure, whatever became of the status. -/
  | failed {earlier later : List Step} {step : Step} {before during rest : List Exchange} {q : ClusterPass}
      {e : Failure} {now : Instant} {written : Except Failure Unit} (order : Step.all = earlier ++ step :: later)
      (came : c.Reaches pace earlier (.start (c.status.getD .initial)) before q)
      (fails : (step.run c pace q).Ends during (.error e))
      (stores : c.Stores (c.settled q (some (step, e)) now) rest written) :
      Concludes c pace (before ++ during ++ ⟨.clock, now⟩ :: rest) (.error e)
  | unwritten {steps rest : List Exchange} {q : ClusterPass} {e : Failure} {now : Instant}
      (run : (c.runSteps pace Step.all (.start (c.status.getD .initial))).Yields steps (q, none))
      (stores : c.Stores (c.settled q none now) rest (.error e)) :
      Concludes c pace (steps ++ ⟨.clock, now⟩ :: rest) (.error e)
  | done {steps rest : List Exchange} {q : ClusterPass} {now : Instant}
      (run : (c.runSteps pace Step.all (.start (c.status.getD .initial))).Yields steps (q, none))
      (stores : c.Stores (c.settled q none now) rest (.ok ())) :
      Concludes c pace (steps ++ ⟨.clock, now⟩ :: rest) (.ok (q.requeue.action pace.steady))

theorem passOver_ends_iff {r : Except Failure Action} :
    (latest.passOver pace).Ends log r ↔ latest.Concludes pace log r := by
  constructor
  · intro h
    obtain ⟨⟨q, failure⟩, steps, others, rfl, run, afterSteps⟩ := ends_lift_bind.mp h
    obtain ⟨now, more, rfl, afterClock⟩ := ends_now_bind.mp afterSteps
    obtain ⟨written, rest, last, rfl, wrote, ends⟩ := ends_outcome_bind.mp afterClock
    have stores : latest.Stores (latest.settled q failure now) rest written := writeStatus_ends_iff.mp wrote
    split at ends
    · next step e =>
      obtain ⟨rfl, rfl⟩ := ends_fail.mp ends
      obtain ⟨earlier, later, before, during, order, rfl, came, fails⟩ := (runSteps_failed rfl).mp run
      rw [List.append_nil]
      exact .failed order came fails stores
    · obtain ⟨rfl, rfl⟩ := ends_fail.mp ends
      rw [List.append_nil]
      exact .unwritten run stores
    · obtain ⟨rfl, rfl⟩ := ends_pure.mp ends
      rw [List.append_nil]
      exact .done run stores
  · intro h
    cases h with
    | failed order came fails stores =>
        refine ends_lift_bind.mpr ⟨_, _, _, rfl, (runSteps_failed rfl).mpr ⟨_, _, _, _, order, rfl, came, fails⟩, ?_⟩
        refine ends_now_bind.mpr ⟨_, _, rfl, ?_⟩
        refine ends_outcome_bind.mpr ⟨_, _, [], (List.append_nil _).symm, writeStatus_ends_iff.mpr stores, ?_⟩
        exact ends_fail.mpr ⟨rfl, rfl⟩
    | unwritten run stores =>
        refine ends_lift_bind.mpr ⟨_, _, _, rfl, run, ?_⟩
        refine ends_now_bind.mpr ⟨_, _, rfl, ?_⟩
        refine ends_outcome_bind.mpr ⟨_, _, [], (List.append_nil _).symm, writeStatus_ends_iff.mpr stores, ?_⟩
        exact ends_fail.mpr ⟨rfl, rfl⟩
    | done run stores =>
        refine ends_lift_bind.mpr ⟨_, _, _, rfl, run, ?_⟩
        refine ends_now_bind.mpr ⟨_, _, rfl, ?_⟩
        refine ends_outcome_bind.mpr ⟨_, _, [], (List.append_nil _).symm, writeStatus_ends_iff.mpr stores, ?_⟩
        exact ends_pure.mpr ⟨rfl, rfl⟩

/-- A pass that found the cluster in the API leaves it alone if it is being deleted, and else concludes in one of the
ways above, each of which it can come to. -/
theorem pass_ends_iff {ns : String} {r : Except Failure Action} :
    (c.pass pace).Ends (⟨.getCluster ns c.name, .ok latest⟩ :: log) r ↔ c.placed = .ok ns ∧
      ((latest.metadata.deleted.isSome = true ∧ log = [] ∧ r = .ok .await) ∨
        (latest.metadata.deleted = none ∧ latest.Concludes pace log r)) := by
  constructor
  · intro h
    rcases ends_ofExcept_bind.mp h with ⟨e, -, none, -⟩ | ⟨ns', place, asked⟩
    · cases none
    obtain ⟨reply, rest, same, answered⟩ := ends_call_bind.mp asked
    cases same
    refine ⟨place, ?_⟩
    rcases ends_ofExcept_bind.mp answered with ⟨e, none, -⟩ | ⟨_, same, ends⟩
    · cases none
    cases same
    split at ends
    · next deleted =>
      obtain ⟨rfl, rfl⟩ := ends_pure.mp ends
      exact .inl ⟨deleted, rfl, rfl⟩
    · next stays =>
      exact .inr ⟨Option.not_isSome_iff_eq_none.mp stays, passOver_ends_iff.mp ends⟩
  · rintro ⟨place, h⟩
    refine ends_ofExcept_bind.mpr (.inr ⟨ns, place, ?_⟩)
    refine ends_call_bind.mpr ⟨.ok latest, log, rfl, ?_⟩
    refine ends_ofExcept_bind.mpr (.inr ⟨latest, rfl, ?_⟩)
    rcases h with ⟨deleted, rfl, rfl⟩ | ⟨stays, concludes⟩
    · rw [if_pos deleted]
      exact ends_pure.mpr ⟨rfl, rfl⟩
    · rw [stays]
      exact passOver_ends_iff.mpr concludes

/-- What a pass settles on if a step of it fails is the status that the steps before had come to, but for the word on how
the pass went and the generation that was looked at; and so it is if no step fails. Which exchanges a pass makes and what
it answers is told by `Concludes`: no step is taken after one that failed, its failure is answered whatever becomes of
the status, and the status is not asked to be stored only if the cluster has it or has no namespace. -/
theorem failed_step_leaves_no_trace {ns : String} {r : Except Failure Action} :
    ((c.pass pace).Ends (⟨.getCluster ns c.name, .ok latest⟩ :: log) r ↔ c.placed = .ok ns ∧
      ((latest.metadata.deleted.isSome = true ∧ log = [] ∧ r = .ok .await) ∨
        (latest.metadata.deleted = none ∧ latest.Concludes pace log r))) ∧
    ∀ (q : ClusterPass) (failure : Option (Step × Failure)) (now : Instant),
      let status := latest.settled q failure now
      status = { q.status with
        conditions := status.conditions, observedGeneration := latest.metadata.generation } ∧
      (∀ a : Condition, a.type ≠ Condition.reconciled → (a ∈ status.conditions ↔ a ∈ q.status.conditions)) ∧
      ∃ a, status.conditions.find? Condition.reconciled = some a ∧ match failure, q.requeue with
        | some (step, e), _ =>
          a.status = .false ∧ a.reason = e.classify.word ∧ a.message = step.word ++ ": " ++ e.message
        | none, .fatal text => a.status = .false ∧ a.message = text
        | none, _ => a.status = .true := by
  refine ⟨pass_ends_iff, fun q failure now => ?_⟩
  obtain ⟨same, ⟨a, found, agrees⟩, others⟩ := settled_tells latest q failure now
  refine ⟨same, others, a, found, ?_⟩
  simp only [Condition.saysSame, Bool.and_eq_true, beq_iff_eq] at agrees
  obtain ⟨⟨status, reason⟩, message⟩ := agrees
  cases failure with
  | some failed => exact ⟨status, reason, message⟩
  | none =>
      cases asked : q.requeue with
      | fatal text =>
          rw [asked] at status message
          exact ⟨status, message⟩
      | steady =>
          rw [asked] at status
          exact status
      | retryAfter after =>
          rw [asked] at status
          exact status

end Cluster

end BrokerFleet
