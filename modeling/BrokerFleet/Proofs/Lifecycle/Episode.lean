import BrokerFleet.Proofs.Pass.Effects

/-!
What identifies an update: the generation that clients leave, the one they move to, and since when. Of all steps of a
pass only the state step begins an update or ends one; what the others do to it is to note evacuations. And what it
begins goes from the origin it sees to an update generation that serves.
-/

namespace BrokerFleet

open Kubernetes Attempt

structure Episode where
  origin : String
  current : String
  startedAt : String
  deriving DecidableEq

def BlueGreenUpdate.episode (u : BlueGreenUpdate) : Episode :=
  ⟨u.originGeneration, u.currentGeneration, u.startedAt⟩

namespace ClusterStatus

def episode (s : ClusterStatus) : Option Episode :=
  s.blueGreenUpdate.map (·.episode)

variable {s : ClusterStatus} {o : Observation} {now : Instant} {e : Episode}

theorem episode_isSome : s.episode.isSome = s.blueGreenUpdate.isSome :=
  Option.isSome_map

theorem evacuations_episode {records : List Evacuation} : (s.apply (.evacuations records)).episode = s.episode := by
  unfold episode apply
  rw [Option.map_map]
  rfl

theorem advance_halt_update (halts : (s.advance o now).2 = .halt) :
    (s.advance o now).1.blueGreenUpdate = s.blueGreenUpdate := by
  rcases advance_cases s o now with ⟨-, h⟩ | ⟨-, -, h⟩ | ⟨-, -, -, h⟩ | ⟨-, -, -, h⟩
  · rw [h]
    rfl
  · rw [h] at halts
    cases halts
  · rw [h] at halts
    cases halts
  · rw [h] at halts
    cases halts

/-- An observation begins an update if it shows an update generation that serves; and the update is from the origin to
that one. -/
theorem advance_begins (begins : (s.advance o now).1.episode = some e) (anew : s.episode ≠ some e) :
    o.capability.supportsBlueGreen = true ∧ o.updateServes = true ∧ o.origin = some e.origin ∧
      ∃ update, o.update = some update ∧ update.name = e.current := by
  rcases advance_cases s o now with ⟨-, h⟩ | ⟨-, -, h⟩ | ⟨-, -, supports, h⟩ | ⟨-, -, -, h⟩
  · rw [h] at begins
    exact absurd begins anew
  · rw [h] at begins
    unfold finishUpdate at begins
    split at begins
    · cases begins
    · exact absurd begins anew
  · rw [h] at begins
    obtain ⟨u, chosen, rfl⟩ := Option.map_eq_some_iff.mp begins
    rcases chooseUpdate_cases chosen with kept | ⟨update, origin, serves, hupdate, horigin, rfl⟩
    · have kept : s.blueGreenUpdate = some u := kept
      exact absurd (by rw [episode, kept]; rfl) anew
    · exact ⟨supports, serves, horigin, update, hupdate, rfl⟩
  · rw [h] at begins
    cases begins

/-- While several generations are live and the edition can move clients, an update goes on unless another one is seen to
begin. -/
theorem advance_keeps_episode (known : s.episode = some e) (several : 1 < o.liveGenerations)
    (supports : o.capability.supportsBlueGreen = true)
    (same : ∀ update origin, o.update = some update → o.origin = some origin →
      origin = e.origin ∧ update.name = e.current) : (s.advance o now).1.episode = some e := by
  rcases advance_cases s o now with ⟨-, h⟩ | ⟨-, single, -⟩ | ⟨-, -, -, h⟩ | ⟨-, -, refuses, -⟩
  · rw [h]
    exact known
  · omega
  · rw [h]
    show ((s.recorded o now).chooseUpdate o now).map (·.episode) = some e
    unfold chooseUpdate
    split
    · next update origin _ hupdate horigin =>
      obtain ⟨rfl, current⟩ := same update origin hupdate horigin
      obtain ⟨u, recorded, rfl⟩ := Option.map_eq_some_iff.mp known
      rw [recorded_blueGreenUpdate, recorded, Option.any_some, current]
      simp [BlueGreenUpdate.episode]
    · exact known
  · rw [supports] at refuses
    cases refuses

end ClusterStatus

theorem Step.run_keeps_episode {step : Step} {c : Cluster} {pace : Pace} {p : ClusterPass}
    (other : step ≠ .stateMachine) : (step.run c pace p).Gives fun next =>
      next.status.episode = p.status.episode := by
  intro log next ends
  cases step with
  | initResources =>
      rcases (Cluster.bootstrapStep_gives log next ends).2 with rfl | ⟨-, now, same⟩
      · rfl
      · rw [same, ClusterStatus.episode, ClusterStatus.advance_halt_update Cluster.advance_pending]
        rfl
  | generations =>
      obtain ⟨generations, update, rfl⟩ := Cluster.generationStep_gives log next ends
      rfl
  | nodes =>
      obtain ⟨nodes, link, requeue, rfl⟩ := Cluster.nodeStep_gives log next ends
      rfl
  | stateMachine => exact absurd rfl other
  | evacuation =>
      rcases Cluster.evacuationStep_gives log next ends with same | ⟨records, same⟩
      · rw [same]
      · rw [same, ClusterStatus.evacuations_episode]
  | readinessGates => rw [Cluster.gateStep_gives log next ends]
  | listeners => rw [Cluster.listenerStep_gives log next ends]

namespace Cluster

variable {c : Cluster} {pace : Pace} {p q : ClusterPass} {log : List Exchange} {failure : Option (Step × Failure)}

theorem runSteps_keeps_episode {steps : List Step} (other : .stateMachine ∉ steps)
    (run : (c.runSteps pace steps p).Yields log (q, failure)) : q.status.episode = p.status.episode := by
  induction steps generalizing p log with
  | nil =>
      cases (runSteps_nil.mp run).2
      rfl
  | cons step rest ih =>
      rw [List.mem_cons, not_or] at other
      rcases runSteps_cons.mp run with
        ⟨e, -, same⟩ | ⟨next, taken, -, same⟩ | ⟨next, first, later, rfl, taken, -, follows⟩
      · cases same
        rfl
      · cases same
        exact Step.run_keeps_episode (Ne.symm other.1) _ _ taken
      · exact (ih other.2 follows).trans (Step.run_keeps_episode (Ne.symm other.1) _ _ taken)

theorem settled_episode {now : Instant} : (c.settled q failure now).episode = q.status.episode :=
  rfl

end Cluster

end BrokerFleet
