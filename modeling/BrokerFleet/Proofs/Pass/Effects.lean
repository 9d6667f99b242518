import BrokerFleet.Proofs.Lifecycle.Coherence
import BrokerFleet.Proofs.Pass.Course

/-!
What a step hands on. Only the state step of a pass that goes on advances the status; all that other steps
do to it is to note nodes and evacuations.
-/

namespace BrokerFleet

open Kubernetes Attempt

namespace Cluster

variable {c : Cluster} {pace : Pace} {p : ClusterPass}

theorem advance_pending {s : ClusterStatus} {capability : Capability} {desired : Int32} {now : Instant} :
    (s.advance (.pending capability desired) now).2 = .halt := by
  rcases ClusterStatus.advance_cases s (.pending capability desired) now with
    ⟨-, h⟩ | ⟨running, -, -⟩ | ⟨-, several, -⟩ | ⟨-, several, -⟩
  · rw [h]
  · unfold ClusterState.next at running
    split at running
    · cases running
    · cases running
  · cases several
  · cases several

theorem bootstrapStep_gives : (c.bootstrapStep pace p).Gives fun next =>
    next.generations = p.generations ∧ (next = { p with initReady := true } ∨
      (next.halted = true ∧ ∃ now,
        next.status = (p.status.advance (.pending c.capability c.spec.replicas) now).1)) := by
  unfold bootstrapStep
  dsimp only
  split
  · refine gives_after fun ready => ?_
    split
    · next there => exact gives_pure ⟨rfl, .inl (by rw [there])⟩
    · refine gives_after fun now => ?_
      rw [if_pos advance_pending]
      exact gives_pure ⟨rfl, .inr ⟨rfl, now, rfl⟩⟩
  · refine gives_after fun ready => ?_
    split
    · next there => exact gives_pure ⟨rfl, .inl (by rw [there])⟩
    · refine gives_after fun now => ?_
      rw [if_pos advance_pending]
      exact gives_pure ⟨rfl, .inr ⟨rfl, now, rfl⟩⟩

theorem generationStep_gives : (c.generationStep p).Gives fun next =>
    ∃ generations update, next = { p with generations, update } := by
  unfold generationStep
  refine gives_after fun ns => gives_after fun template => gives_after fun reply => ?_
  refine gives_after fun sets => gives_after fun resolved => ?_
  cases resolved with
  | adopt name hash =>
      refine gives_after fun written => gives_after fun pods => gives_after fun _ => ?_
      exact gives_pure ⟨_, _, rfl⟩
  | create name hash =>
      refine gives_after fun manifest => gives_after fun created => gives_after fun written => ?_
      exact gives_after fun pods => gives_after fun _ => gives_pure ⟨_, _, rfl⟩

theorem nodeStep_gives : (c.nodeStep pace p).Gives fun next =>
    ∃ nodes link requeue, next = { p with status := { p.status with nodes }, link, requeue } := by
  unfold nodeStep
  split
  · exact gives_pure ⟨[], p.link, _, rfl⟩
  · refine gives_after fun client => gives_after fun endpoint => gives_after fun nodes => ?_
    exact gives_pure ⟨nodes, _, p.requeue, rfl⟩

theorem stateStep_gives : (c.stateStep pace p).Gives fun next => ∃ now,
    next.status = (p.status.advance
      (c.observe p.initReady p.status.nodes p.generations p.update) now).1 ∧
    next.generations = p.generations ∧ next.update = p.update ∧ next.link = p.link ∧
    (next.halted = false → (p.status.advance
      (c.observe p.initReady p.status.nodes p.generations p.update) now).2 = .continue) := by
  unfold stateStep
  refine gives_after fun now => ?_
  generalize c.observe p.initReady p.status.nodes p.generations p.update = seen
  dsimp only
  split
  · next proceeds =>
    refine gives_bind (gives_pure rfl) ?_
    intro next same
    subst same
    split
    · exact gives_after fun _ => gives_pure ⟨now, rfl, rfl, rfl, rfl, fun _ => proceeds⟩
    · exact gives_pure ⟨now, rfl, rfl, rfl, rfl, fun _ => proceeds⟩
  · refine gives_bind (gives_pure rfl) ?_
    intro next same
    subst same
    split
    · exact gives_after fun _ => gives_pure ⟨now, rfl, rfl, rfl, rfl, fun h => nomatch h⟩
    · exact gives_pure ⟨now, rfl, rfl, rfl, rfl, fun h => nomatch h⟩
  · refine gives_after fun _ => gives_bind (gives_pure rfl) ?_
    intro next same
    subst same
    split
    · exact gives_after fun _ => gives_pure ⟨now, rfl, rfl, rfl, rfl, fun h => nomatch h⟩
    · exact gives_pure ⟨now, rfl, rfl, rfl, rfl, fun h => nomatch h⟩

theorem evacuate_gives {ns target : String} {link : ManagementLink} {outgoing : Generation}
    {plan : EvacuationPlan} :
    (c.evacuate ns target link outgoing plan p).Gives fun next => next.status = p.status := by
  unfold evacuate
  cases plan with
  | scaleDown replicas => exact gives_after fun _ => gives_after fun _ => gives_pure rfl
  | start node migrateTo => exact gives_after fun _ => gives_after fun _ => gives_pure rfl
  | wait => exact gives_pure rfl

theorem evacuationStep_gives : (c.evacuationStep pace p).Gives fun next =>
    next.status = p.status ∨ ∃ records, next.status = p.status.apply (.evacuations records) := by
  unfold evacuationStep
  split
  · exact gives_pure (.inl rfl)
  · split
    · exact gives_pure (.inl rfl)
    · refine gives_after fun now => ?_
      split
      · exact gives_pure (.inl rfl)
      · split
        · exact gives_pure (.inl rfl)
        · split
          · exact gives_pure (.inl rfl)
          · split
            · exact gives_pure (.inl rfl)
            · unfold evacuateFrom
              refine gives_after fun nodes => gives_after fun report => ?_
              dsimp only
              split
              · refine gives_after fun incoming => gives_after fun target => gives_after fun ns => ?_
                refine gives_bind evacuate_gives fun next same => gives_pure (.inr ⟨_, same⟩)
              · exact gives_bind (Q := fun _ => False) gives_fail fun _ h => h.elim

theorem gateStep_gives : (c.gateStep p).Gives fun next => next = p := by
  unfold gateStep
  exact gives_after fun ns => gives_after fun _ => gives_pure rfl

theorem listenerStep_gives : (c.listenerStep p).Gives fun next => next = p := by
  unfold listenerStep
  split
  · exact gives_pure rfl
  · refine gives_after fun listeners => ?_
    dsimp only
    split
    · exact gives_pure rfl
    · exact gives_after fun ns => gives_after fun _ => gives_pure rfl

end Cluster

namespace Step

variable {step : Step} {c : Cluster} {pace : Pace} {p : ClusterPass}

theorem run_generations (notStamping : step ≠ .generations) (notEvacuating : step ≠ .evacuation) :
    (step.run c pace p).Gives fun next => next.generations = p.generations := by
  intro log next ends
  cases step with
  | initResources => exact (Cluster.bootstrapStep_gives log next ends).1
  | generations => exact absurd rfl notStamping
  | nodes =>
      obtain ⟨nodes, link, requeue, rfl⟩ := Cluster.nodeStep_gives log next ends
      rfl
  | stateMachine =>
      obtain ⟨now, -, same, -⟩ := Cluster.stateStep_gives log next ends
      exact same
  | evacuation => exact absurd rfl notEvacuating
  | readinessGates => rw [Cluster.gateStep_gives log next ends]
  | listeners => rw [Cluster.listenerStep_gives log next ends]

theorem run_events : (step.run c pace p).Gives fun next => ∃ events : List ClusterStatus.Event,
    next.status = p.status.after events ∧ ∀ e ∈ events, e.IsObserved := by
  intro log next ends
  have none : ∀ {e : ClusterStatus.Event}, e ∈ [] → e.IsObserved := fun member => nomatch member
  have one : ∀ {first e : ClusterStatus.Event}, first.IsObserved → e ∈ [first] → e.IsObserved := by
    intro first e observed member
    rwa [List.mem_singleton.mp member]
  cases step with
  | initResources =>
      rcases (Cluster.bootstrapStep_gives log next ends).2 with rfl | ⟨-, now, same⟩
      · exact ⟨[], rfl, fun _ => none⟩
      · exact ⟨[.advance _ now], same, fun _ => one (.inr ⟨_, _, rfl⟩)⟩
  | generations =>
      obtain ⟨generations, update, rfl⟩ := Cluster.generationStep_gives log next ends
      exact ⟨[], rfl, fun _ => none⟩
  | nodes =>
      obtain ⟨nodes, link, requeue, rfl⟩ := Cluster.nodeStep_gives log next ends
      exact ⟨[.nodes nodes], rfl, fun _ => one trivial⟩
  | stateMachine =>
      obtain ⟨now, same, -⟩ := Cluster.stateStep_gives log next ends
      exact ⟨[.advance _ now], same, fun _ => one (.inl ⟨_, _, _, _, _, rfl⟩)⟩
  | evacuation =>
      rcases Cluster.evacuationStep_gives log next ends with same | ⟨records, same⟩
      · exact ⟨[], same, fun _ => none⟩
      · exact ⟨[.evacuations records], same, fun _ => one trivial⟩
  | readinessGates =>
      rw [Cluster.gateStep_gives log next ends]
      exact ⟨[], rfl, fun _ => none⟩
  | listeners =>
      rw [Cluster.listenerStep_gives log next ends]
      exact ⟨[], rfl, fun _ => none⟩

end Step

namespace Cluster

variable {c latest : Cluster} {pace : Pace} {p q : ClusterPass} {log : List Exchange}
  {failure : Option (Step × Failure)}

theorem runSteps_still {steps : List Step} (each : ∀ step ∈ steps, (step.run c pace p).Gives fun next => next = p)
    (run : (c.runSteps pace steps p).Yields log (q, failure)) : q = p := by
  induction steps generalizing log with
  | nil =>
      cases (runSteps_nil.mp run).2
      rfl
  | cons step rest ih =>
      have here := each step List.mem_cons_self
      rcases runSteps_cons.mp run with
        ⟨e, -, same⟩ | ⟨next, taken, -, same⟩ | ⟨next, first, later, rfl, taken, -, follows⟩
      · cases same
        rfl
      · cases same
        exact here _ _ taken
      · cases here _ _ taken
        exact ih (fun step member => each step (List.mem_cons_of_mem _ member)) follows

theorem runSteps_events {steps : List Step} (run : (c.runSteps pace steps p).Yields log (q, failure)) :
    ∃ events : List ClusterStatus.Event, q.status = p.status.after events ∧ ∀ e ∈ events, e.IsObserved := by
  induction steps generalizing p log with
  | nil =>
      obtain ⟨-, same⟩ := runSteps_nil.mp run
      cases same
      exact ⟨[], rfl, fun _ member => nomatch member⟩
  | cons step rest ih =>
      rcases runSteps_cons.mp run with
        ⟨e, -, same⟩ | ⟨next, taken, -, same⟩ | ⟨next, first, later, rfl, taken, -, follows⟩
      · cases same
        exact ⟨[], rfl, fun _ member => nomatch member⟩
      · cases same
        exact Step.run_events _ _ taken
      · obtain ⟨before, hbefore, observed⟩ := Step.run_events first next taken
        obtain ⟨after, hafter, observed'⟩ := ih follows
        refine ⟨before ++ after, ?_, fun e member => ?_⟩
        · rw [ClusterStatus.after_append, ← hbefore, hafter]
        · exact (List.mem_append.mp member).elim (observed e) (observed' e)

end Cluster

namespace ClusterStatus

/-- The statuses that passes settle on, from a cluster that has none. -/
inductive Reached : ClusterStatus → Prop where
  | initial : Reached .initial
  | pass (latest : Cluster) {pace : Pace} {log : List Exchange} {p : ClusterPass}
      (failure : Option (Step × Failure)) (now : Instant)
      (stored : Reached (latest.status.getD .initial))
      (run : (latest.runSteps pace Step.all (.start (latest.status.getD .initial))).Yields log (p, failure)) :
      Reached (latest.settled p failure now)

theorem Reached.events {s : ClusterStatus} (reached : s.Reached) :
    ∃ events : List Event, s = ClusterStatus.initial.after events ∧ ∀ e ∈ events, e.IsObserved := by
  induction reached with
  | initial => exact ⟨[], rfl, fun _ member => nomatch member⟩
  | @pass latest pace log p failure now stored run ih =>
      obtain ⟨before, hbefore, earlier⟩ := ih
      obtain ⟨during, hduring, here⟩ := Cluster.runSteps_events run
      have notes : ∀ e ∈ [Event.reconciled failure p.requeue now,
          .observedGeneration latest.metadata.generation], e.IsObserved := by
        intro e member
        simp only [List.mem_cons, List.not_mem_nil, or_false] at member
        rcases member with rfl | rfl <;> trivial
      refine ⟨before ++ (during ++ [.reconciled failure p.requeue now,
        .observedGeneration latest.metadata.generation]), ?_, fun e member => ?_⟩
      · rw [after_append, ← hbefore, after_append]
        dsimp only [ClusterPass.start] at hduring
        rw [← hduring]
        rfl
      · rcases List.mem_append.mp member with first | later
        · exact earlier e first
        · exact (List.mem_append.mp later).elim (here e) (notes e)

theorem Reached.coherent {s : ClusterStatus} (reached : s.Reached) : s.Coherent ∧ s.Apart := by
  obtain ⟨events, rfl, observed⟩ := reached.events
  exact ⟨after_coherent initial_coherent, after_apart initial_apart observed⟩

end ClusterStatus

end BrokerFleet
