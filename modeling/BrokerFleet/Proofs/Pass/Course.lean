import BrokerFleet.Proofs.Exchange
import BrokerFleet.Pass.Cluster

/-!
The course of a pass. Its exchanges are those of its steps, one step after the other, and then those that
settle the status. The lemmas take a pass apart that way, whatever the world replied.
-/

namespace BrokerFleet

open Kubernetes Attempt

namespace Cluster

variable {c latest : Cluster} {pace : Pace} {p : ClusterPass} {log : List Exchange}
  {result : ClusterPass × Option (Step × Failure)}

theorem runSteps_nil : (c.runSteps pace [] p).Yields log result ↔ log = [] ∧ result = (p, none) :=
  Dialogue.yields_done

theorem runSteps_cons {step : Step} {rest : List Step} :
    (c.runSteps pace (step :: rest) p).Yields log result ↔
      (∃ e, (step.run c pace p).Ends log (.error e) ∧ result = (p, some (step, e))) ∨
      (∃ next, (step.run c pace p).Ends log (.ok next) ∧ next.halted = true ∧ result = (next, none)) ∨
      (∃ next first later, log = first ++ later ∧ (step.run c pace p).Ends first (.ok next) ∧
        next.halted = false ∧ (c.runSteps pace rest next).Yields later result) := by
  apply Dialogue.yields_bind.trans
  constructor
  · intro h
    rcases h with ⟨came, first, later, rfl, taken, follows⟩
    cases came with
    | error e =>
        obtain ⟨rfl, rfl⟩ := Dialogue.yields_done.mp follows
        rw [List.append_nil]
        exact .inl ⟨e, taken, rfl⟩
    | ok next =>
        dsimp only at follows
        split at follows
        · next halted =>
          obtain ⟨rfl, rfl⟩ := Dialogue.yields_done.mp follows
          rw [List.append_nil]
          exact .inr (.inl ⟨next, taken, halted, rfl⟩)
        · next proceeds =>
          exact .inr (.inr ⟨next, first, later, rfl, taken, by simpa using proceeds, follows⟩)
  · intro h
    rcases h with
      ⟨e, taken, rfl⟩ | ⟨next, taken, halted, rfl⟩ | ⟨next, first, later, rfl, taken, proceeds, follows⟩
    · exact ⟨.error e, log, [], (List.append_nil log).symm, taken, .done _⟩
    · refine ⟨.ok next, log, [], (List.append_nil log).symm, taken, ?_⟩
      dsimp only
      rw [if_pos halted]
      exact .done _
    · refine ⟨.ok next, first, later, rfl, taken, ?_⟩
      dsimp only
      rw [if_neg (by rw [proceeds]; decide)]
      exact follows

/-- The steps have come this far: none of them has failed or halted. -/
def Reaches (c : Cluster) (pace : Pace) (steps : List Step) (p : ClusterPass) (log : List Exchange)
    (reached : ClusterPass) : Prop :=
  (c.runSteps pace steps p).Yields log (reached, none) ∧ reached.halted = false

theorem runSteps_append {first rest : List Step} (going : p.halted = false)
    (h : (c.runSteps pace (first ++ rest) p).Yields log result) :
    ((c.runSteps pace first p).Yields log result ∧ (result.2 = none → result.1.halted = true)) ∨
      ∃ reached before after, log = before ++ after ∧ c.Reaches pace first p before reached ∧
        (c.runSteps pace rest reached).Yields after result := by
  induction first generalizing p log with
  | nil => exact .inr ⟨p, [], log, rfl, ⟨runSteps_nil.mpr ⟨rfl, rfl⟩, going⟩, h⟩
  | cons step steps ih =>
      rcases runSteps_cons.mp h with
        ⟨e, taken, rfl⟩ | ⟨next, taken, halted, rfl⟩ | ⟨next, head, later, rfl, taken, proceeds, follows⟩
      · exact .inl ⟨runSteps_cons.mpr (.inl ⟨e, taken, rfl⟩), fun none => nomatch none⟩
      · exact .inl ⟨runSteps_cons.mpr (.inr (.inl ⟨next, taken, halted, rfl⟩)), fun _ => halted⟩
      · rcases ih proceeds follows with ⟨stops, why⟩ | ⟨reached, before, after, rfl, ⟨yields, still⟩, rest⟩
        · exact .inl ⟨runSteps_cons.mpr (.inr (.inr ⟨next, head, later, rfl, taken, proceeds, stops⟩)), why⟩
        · refine .inr ⟨reached, head ++ before, after, (List.append_assoc ..).symm, ⟨?_, still⟩, rest⟩
          exact runSteps_cons.mpr (.inr (.inr ⟨next, head, before, rfl, taken, proceeds, yields⟩))

theorem Reaches.uncons {step : Step} {rest : List Step} {q : ClusterPass}
    (reaches : c.Reaches pace (step :: rest) p log q) :
    ∃ next first later, log = first ++ later ∧ (step.run c pace p).Ends first (.ok next) ∧
      next.halted = false ∧ c.Reaches pace rest next later q := by
  rcases runSteps_cons.mp reaches.1 with
    ⟨e, -, same⟩ | ⟨next, -, halted, same⟩ | ⟨next, first, later, rfl, taken, proceeds, follows⟩
  · cases same
  · cases same
    rw [reaches.2] at halted
    cases halted
  · exact ⟨next, first, later, rfl, taken, proceeds, follows, reaches.2⟩

theorem Reaches.append {first rest : List Step} {q : ClusterPass} {before after : List Exchange}
    (reaches : c.Reaches pace first p before q) (follows : (c.runSteps pace rest q).Yields after result) :
    (c.runSteps pace (first ++ rest) p).Yields (before ++ after) result := by
  induction first generalizing p before with
  | nil =>
      obtain ⟨rfl, same⟩ := runSteps_nil.mp reaches.1
      cases same
      exact follows
  | cons step steps ih =>
      obtain ⟨next, head, later, rfl, taken, proceeds, others⟩ := reaches.uncons
      rw [List.append_assoc]
      exact runSteps_cons.mpr (.inr (.inr ⟨next, head, later ++ after, rfl, taken, proceeds, ih others⟩))

theorem runSteps_forall {P : Exchange → Prop} {steps : List Step}
    (each : ∀ step ∈ steps, ∀ p log r, (step.run c pace p).Ends log r → ∀ x ∈ log, P x)
    (run : (c.runSteps pace steps p).Yields log result) : ∀ x ∈ log, P x := by
  induction steps generalizing p log with
  | nil =>
      obtain ⟨rfl, -⟩ := runSteps_nil.mp run
      exact fun _ member => nomatch member
  | cons step rest ih =>
      rcases runSteps_cons.mp run with
        ⟨e, taken, -⟩ | ⟨next, taken, -, -⟩ | ⟨next, first, later, rfl, taken, -, follows⟩
      · exact each step List.mem_cons_self _ _ _ taken
      · exact each step List.mem_cons_self _ _ _ taken
      · intro x member
        rcases List.mem_append.mp member with here | there
        · exact each step List.mem_cons_self _ _ _ taken x here
        · exact ih (fun s member => each s (List.mem_cons_of_mem _ member)) follows x there

/-! ### Settling the status -/

/-- The status that a pass settles on after its steps. -/
def settled (latest : Cluster) (p : ClusterPass) (failure : Option (Step × Failure)) (now : Instant) :
    ClusterStatus :=
  { p.status.setCondition (reconciledCondition failure p.requeue) now with
    observedGeneration := latest.metadata.generation }

theorem passOver_ends {r : Except Failure Action} (h : (latest.passOver pace).Ends log r) :
    ∃ p failure steps now rest written, log = steps ++ ⟨.clock, now⟩ :: rest ∧
      (latest.runSteps pace Step.all (.start (latest.status.getD .initial))).Yields steps (p, failure) ∧
      (latest.writeStatus (latest.settled p failure now)).Ends rest written := by
  obtain ⟨⟨p, failure⟩, steps, others, rfl, run, afterSteps⟩ := ends_lift_bind.mp h
  obtain ⟨now, more, rfl, afterClock⟩ := ends_now_bind.mp afterSteps
  obtain ⟨written, rest, last, rfl, wrote, ends⟩ := ends_outcome_bind.mp afterClock
  have nothing : last = [] := by
    split at ends
    · exact (ends_fail.mp ends).1
    · exact (ends_fail.mp ends).1
    · exact (ends_pure.mp ends).1
  subst nothing
  rw [List.append_nil]
  exact ⟨p, failure, steps, now, rest, written, rfl, run, wrote⟩

theorem writeStatus_ends {status : ClusterStatus} {r : Except Failure Unit}
    (h : (c.writeStatus status).Ends log r) :
    (log = [] ∧ c.status = some status) ∨ (log = [] ∧ ∃ e, c.placed = .error e) ∨
      ∃ ns reply, c.placed = .ok ns ∧ log = [⟨.write ns (.clusterStatus c.name status), reply⟩] := by
  unfold writeStatus at h
  split at h
  · next same => exact .inl ⟨(ends_pure.mp h).1, by simpa using same⟩
  · rcases ends_ofExcept_bind.mp h with ⟨e, noPlace, rfl, -⟩ | ⟨ns, place, sent⟩
    · exact .inr (.inl ⟨rfl, e, noPlace⟩)
    · obtain ⟨reply, rest, rfl, answered⟩ := ends_call_bind.mp sent
      have nothing : rest = [] := (Dialogue.yields_done.mp answered).1
      subst nothing
      exact .inr (.inr ⟨ns, reply, place, rfl⟩)

theorem pass_ends {r : Except Failure Action} (h : (c.pass pace).Ends log r) :
    log = [] ∨ ∃ ns reply rest, log = ⟨.getCluster ns c.name, reply⟩ :: rest ∧
      (rest = [] ∨ ∃ latest, reply = .ok latest ∧ (latest.passOver pace).Ends rest r) := by
  rcases ends_ofExcept_bind.mp h with ⟨e, -, rfl, -⟩ | ⟨ns, -, asked⟩
  · exact .inl rfl
  · obtain ⟨reply, rest, rfl, answered⟩ := ends_call_bind.mp asked
    refine .inr ⟨ns, reply, rest, rfl, ?_⟩
    rcases ends_ofExcept_bind.mp answered with ⟨e, -, rfl, -⟩ | ⟨latest, found, ends⟩
    · exact .inl rfl
    · split at ends
      · exact .inl (ends_pure.mp ends).1
      · exact .inr ⟨latest, found, ends⟩

end Cluster

end BrokerFleet
