import BrokerFleet.Proofs.Fleet.Listed
import BrokerFleet.Proofs.Fleet.Shrinking

/-!
Passes over a cluster as turns in a world where its status and the StatefulSets are stored. Whatever the world replies,
a pass ends before it has observed anything, or it advances the status by the generations that are listed after its
generation step; and then the evacuation writes the origin of the update at most.
-/

namespace BrokerFleet

open Kubernetes Attempt

/-- What is stored of a cluster: its status, and the StatefulSets. -/
structure World where
  status : Option ClusterStatus
  sets : SetStore

def World.episode (w : World) : Option Episode :=
  (w.status.getD .initial).episode

/-- What becomes of the stored status. A write that failed may have been done. -/
inductive StatusLeft (before : Option ClusterStatus) (log : List Exchange) : Option ClusterStatus → Prop where
  | kept (unwritten : ∀ ns name status, ⟨.write ns (.clusterStatus name status), .ok ()⟩ ∉ log) :
      StatusLeft before log before
  | written {ns name : String} {status : ClusterStatus} (reply : Except ApiError Unit)
      (sent : ⟨.write ns (.clusterStatus name status), reply⟩ ∈ log) : StatusLeft before log (some status)

namespace Cluster

/-- The cluster is shown with the spec that it had and the status that is stored. -/
structure IsShown (c : Cluster) (w : World) (latest : Cluster) : Prop where
  edited : c.EditedTo latest
  spec : latest.spec = c.spec
  status : latest.status = w.status

/-- A pass over the cluster takes the world from one state to another, whatever else it meets with. -/
inductive Turn (c : Cluster) (w w' : World) : Prop where
  | pass {copy : Cluster} {pace : Pace} {log : List Exchange} {r : Except Failure Action}
      (ends : (copy.pass pace).Ends log r)
      (shown : ∀ ns name latest, ⟨.getCluster ns name, .ok latest⟩ ∈ log → c.IsShown w latest)
      (along : w.sets.Along log w'.sets) (left : StatusLeft w.status log w'.status)

variable {c latest : Cluster} {pace : Pace} {p q : ClusterPass} {status : ClusterStatus} {s after : SetStore}
  {w w' : World} {log : List Exchange} {failure : Option (Step × Failure)}

theorem Turn.steps (turn : c.Turn w w') : w' = w ∨ ∃ latest pace log q failure now, c.IsShown w latest ∧
    (latest.runSteps pace Step.all (.start (w.status.getD .initial))).Yields log (q, failure) ∧
    w.sets.Along log w'.sets ∧ (w'.status = w.status ∨ w'.status = some (latest.settled q failure now)) := by
  obtain ⟨ends, shown, along, left⟩ := turn
  have unchanged : ∀ {log : List Exchange}, Quiet log → LeavesStatus log → w.sets.Along log w'.sets →
      StatusLeft w.status log w'.status → w' = w := by
    intro log quiet leaves along left
    have sets := along.of_quiet quiet
    have status : w'.status = w.status := by
      generalize w'.status = after at left
      cases left with
      | kept _ => rfl
      | written reply sent => exact absurd rfl (leaves _ sent _ _ _)
    cases w'
    cases w
    cases sets
    cases status
    rfl
  rcases pass_ends ends with rfl | ⟨ns, reply, rest, rfl, rfl | ⟨latest, rfl, passed⟩⟩
  · exact .inl (unchanged quiet_nil (fun _ member => nomatch member) along left)
  · refine .inl (unchanged (quiet_cons id quiet_nil) (fun x member => ?_) along left)
    rw [List.mem_singleton.mp member]
    exact fun _ _ _ same => nomatch same
  have isShown := shown _ _ _ List.mem_cons_self
  obtain ⟨q, failure, steps, now, others, written, rfl, run, wrote⟩ := passOver_ends passed
  obtain ⟨start, first, passing⟩ := SetStore.along_cons.mp along
  obtain rfl : start = w.sets := first
  obtain ⟨final, stepping, ending⟩ := SetStore.along_append.mp passing
  obtain rfl := ending.of_quiet (quiet_cons (fun h => h) (writeStatus_quiet wrote))
  rw [isShown.status] at run
  refine .inr ⟨latest, _, steps, q, failure, now, isShown, run, stepping, ?_⟩
  generalize w'.status = after at left
  cases left with
  | kept _ => exact .inl rfl
  | written reply sent =>
      rcases List.mem_cons.mp sent with same | sent
      · cases same
      rcases List.mem_append.mp sent with within | sent
      · exact absurd rfl (runSteps_forall (fun step _ p log r ends => Step.run_leavesStatus ends) run _ within _ _ _)
      rcases List.mem_cons.mp sent with same | sent
      · cases same
      rcases writeStatus_ends wrote with ⟨rfl, -⟩ | ⟨rfl, -⟩ | ⟨ns, reply, -, rfl⟩
      · cases sent
      · cases sent
      · cases List.mem_singleton.mp sent
        exact .inr rfl

theorem turn_of_failure {ns : String} {step : Step} {e : Failure} (shown : c.IsShown w latest)
    (stays : latest.metadata.deleted = none) (place : latest.placed = .ok ns)
    (run : (latest.runSteps pace Step.all (.start (w.status.getD .initial))).Yields log (q, some (step, e)))
    (along : w.sets.Along log after) (now : Instant) :
    c.Turn w ⟨some (latest.settled q (some (step, e)) now), after⟩ := by
  rw [← shown.status] at run
  obtain ⟨whole, others, written, rfl, wrote, ends⟩ := pass_fails place stays place run now
  obtain ⟨-, fetched⟩ := pass_looks_once ends List.mem_cons_self
  refine .pass ends (fun ns name other member => fetched ns name other member ▸ shown) ?_ ?_
  · refine .cons rfl (SetStore.along_append.mpr ⟨after, along, .cons rfl ?_⟩)
    refine SetStore.along_of_quiet (writeStatus_quiet wrote) fun _ _ _ member => ?_
    exact absurd trivial (writeStatus_unlisted wrote _ member).1
  · rcases writeStatus_ends wrote with ⟨rfl, same⟩ | ⟨-, e, nowhere⟩ | ⟨ns, reply, -, rfl⟩
    · rw [← shown.status, same]
      refine .kept fun ns name status member => ?_
      rcases List.mem_cons.mp member with impossible | member
      · cases impossible
      rcases List.mem_append.mp member with within | last
      · exact runSteps_forall (fun step _ p log r ends => Step.run_leavesStatus ends) run _ within _ _ _ rfl
      · cases List.mem_singleton.mp last
    · cases place.symm.trans nowhere
    · exact .written reply (List.mem_cons_of_mem _ (List.mem_append_right _
        (List.mem_cons_of_mem _ List.mem_cons_self)))

/-! ### Steps -/

def Sheds (c : Cluster) (generations : List Generation) (episode : Option Episode) (s after : SetStore) : Prop :=
  ∃ ns g e replicas reply, c.placed = .ok ns ∧ g ∈ generations ∧ g.isLive = true ∧ episode = some e ∧
    g.name = e.origin ∧ s.Written ns (.scaleGeneration g.name replicas) reply after

/-- What a pass makes of the update and of the sets. -/
inductive Leads (c : Cluster) (status : ClusterStatus) (s : SetStore) : Option Episode → SetStore → Prop where
  | idle : Leads c status s status.episode s
  | stamped {p : ClusterPass} {part : List Exchange} {r : Except Failure ClusterPass} {after : SetStore}
      (ends : (c.generationStep p).Ends part r) (along : s.Along part after) : Leads c status s status.episode after
  | observed {p next : ClusterPass} {part : List Exchange} {between after : SetStore} (ready : Bool)
      (nodes : List ClusterNode) (now : Instant) {episode : Option Episode}
      (ends : (c.generationStep p).Ends part (.ok next)) (along : s.Along part between)
      (advances : episode = (({ status with nodes } : ClusterStatus).advance
        (c.observe ready nodes next.generations next.update) now).1.episode)
      (sheds : after = between ∨ c.Sheds next.generations episode between after) : Leads c status s episode after

theorem evacuationStep_sheds {r : Except Failure ClusterPass} (ends : (c.evacuationStep pace p).Ends log r)
    (along : s.Along log after) : after = s ∨ c.Sheds p.generations p.status.episode s after := by
  rcases evacuationStep_ends ends with quiet | moves
  · exact .inl (along.of_quiet quiet)
  cases moves with
  | shrink grounds record listed same drained place reply before later =>
      obtain ⟨between, asked, moved⟩ := SetStore.along_append.mp along
      obtain rfl := asked.of_quiet before
      obtain ⟨next, written, rest⟩ := SetStore.along_cons.mp moved
      obtain rfl := rest.of_quiet later
      obtain ⟨member, named⟩ := Generation.find?_spec grounds.found
      refine .inr ⟨_, grounds.outgoing, grounds.update.episode, _, reply, place, member, ?_, ?_, named, written⟩
      · exact decide_eq_true grounds.live
      · rw [ClusterStatus.episode, grounds.recorded]
        rfl
  | evacuate grounds order reply before later =>
      obtain ⟨between, asked, moved⟩ := SetStore.along_append.mp along
      obtain rfl := asked.of_quiet before
      obtain ⟨next, sent, rest⟩ := SetStore.along_cons.mp moved
      obtain rfl := rest.of_quiet later
      exact .inl sent

def beforeAdvance : List Step :=
  [.initResources, .generations, .nodes]

theorem leads_of_stopped (run : (c.runSteps pace beforeAdvance (.start status)).Yields log (q, failure))
    (along : s.Along log after) : c.Leads status s q.status.episode after := by
  have still : q.status.episode = status.episode := runSteps_keeps_episode (by decide) run
  rw [still]
  have quiet : ∀ {step : Step} {p : ClusterPass} {log : List Exchange} {r : Except Failure ClusterPass}
      {s after : SetStore}, step ≠ .generations → step ≠ .evacuation → (step.run c pace p).Ends log r →
      s.Along log after → after = s :=
    fun stamping evacuating ends along => along.of_quiet (Step.run_quiet _ stamping evacuating ends)
  rcases runSteps_cons.mp run with ⟨e, taken, -⟩ | ⟨booted, taken, -, -⟩ | ⟨booted, _, _, rfl, taken, -, follows⟩
  · obtain rfl := quiet (by decide) (by decide) taken along
    exact .idle
  · obtain rfl := quiet (by decide) (by decide) taken along
    exact .idle
  obtain ⟨_, first, others⟩ := SetStore.along_append.mp along
  obtain rfl := quiet (by decide) (by decide) taken first
  rcases runSteps_cons.mp follows with ⟨e, taken, -⟩ | ⟨next, taken, -, -⟩ | ⟨next, _, _, rfl, taken, -, follows⟩
  · exact .stamped taken others
  · exact .stamped taken others
  obtain ⟨_, stamping, asking⟩ := SetStore.along_append.mp others
  have asks : Quiet _ := runSteps_forall (fun step member p log r ends => by
    cases List.mem_singleton.mp member
    exact Step.run_quiet .nodes (by decide) (by decide) ends) follows
  obtain rfl := asking.of_quiet asks
  exact .stamped taken stamping

theorem reaches_advance (arrives : c.Reaches pace beforeAdvance (.start status) log p) (along : s.Along log after) :
    ∃ booted part next, (c.generationStep booted).Ends part (.ok next) ∧ s.Along part after ∧
      p.status = { status with nodes := p.status.nodes } ∧ p.generations = next.generations ∧
      p.update = next.update := by
  obtain ⟨booted, first, later, rfl, boots, going, afterBoot⟩ := Reaches.uncons arrives
  obtain ⟨next, part, more, rfl, stamps, -, afterStamping⟩ := Reaches.uncons afterBoot
  obtain ⟨asked, nodes, none, rfl, asks, -, arrived⟩ := Reaches.uncons afterStamping
  obtain ⟨rfl, same⟩ := runSteps_nil.mp arrived.1
  cases same
  obtain ⟨_, booting, others⟩ := SetStore.along_append.mp along
  obtain rfl := booting.of_quiet (Step.run_quiet .initResources (by decide) (by decide) boots)
  obtain ⟨_, stamping, asking⟩ := SetStore.along_append.mp others
  rw [List.append_nil] at asking
  obtain rfl := asking.of_quiet (Step.run_quiet .nodes (by decide) (by decide) asks)
  refine ⟨booted, part, next, stamps, stamping, ?_⟩
  rcases (bootstrapStep_gives _ _ boots).2 with rfl | ⟨halted, -⟩
  · obtain ⟨generations, update, rfl⟩ := generationStep_gives _ _ stamps
    obtain ⟨nodes, link, requeue, rfl⟩ := nodeStep_gives _ _ asks
    exact ⟨rfl, rfl, rfl⟩
  · rw [going] at halted
    cases halted

theorem runSteps_leads (run : (c.runSteps pace Step.all (.start status)).Yields log (q, failure))
    (along : s.Along log after) : c.Leads status s q.status.episode after := by
  have split : Step.all = beforeAdvance ++ [.stateMachine, .evacuation, .readinessGates, .listeners] := rfl
  rw [split] at run
  rcases runSteps_append rfl run with ⟨stops, -⟩ | ⟨asked, before, later, rfl, arrives, follows⟩
  · exact leads_of_stopped stops along
  obtain ⟨between, arriving, going⟩ := SetStore.along_append.mp along
  obtain ⟨booted, part, next, stamps, stamping, known, generations, update⟩ := reaches_advance arrives arriving
  have still : ∀ {log : List Exchange} {r : Except Failure ClusterPass} {after : SetStore},
      (c.stateStep pace asked).Ends log r → between.Along log after → after = between :=
    fun ends along => along.of_quiet (Step.run_quiet .stateMachine (by decide) (by decide) ends)
  have advanced : ∀ {stated : ClusterPass} {log : List Exchange}, (c.stateStep pace asked).Ends log (.ok stated) →
      ∃ now, stated.generations = next.generations ∧
        stated.status.episode = (({ status with nodes := asked.status.nodes } : ClusterStatus).advance
          (c.observe asked.initReady asked.status.nodes next.generations next.update) now).1.episode := by
    intro stated log states
    obtain ⟨now, same, sameGenerations, -⟩ := stateStep_gives _ _ states
    rw [known, generations, update] at same
    exact ⟨now, sameGenerations.trans generations, congrArg ClusterStatus.episode same⟩
  rcases runSteps_cons.mp follows with ⟨e, states, same⟩ | ⟨stated, states, -, same⟩ |
    ⟨stated, _, _, rfl, states, -, follows⟩
  · cases same
    obtain rfl := still states going
    rw [show q.status.episode = status.episode by rw [known]; rfl]
    exact .stamped stamps stamping
  · cases same
    obtain rfl := still states going
    obtain ⟨now, -, advances⟩ := advanced states
    exact .observed _ _ now stamps stamping advances (.inl rfl)
  · obtain ⟨_, first, onward⟩ := SetStore.along_append.mp going
    obtain rfl := still states first
    obtain ⟨now, sameGenerations, advances⟩ := advanced states
    have kept := runSteps_keeps_episode (by decide) follows
    obtain ⟨moved, rest, r, rfl, evacuates, quiet⟩ := runSteps_evacuation follows
    obtain ⟨_, moving, ending⟩ := SetStore.along_append.mp onward
    obtain rfl := ending.of_quiet quiet
    have sheds := evacuationStep_sheds evacuates moving
    rw [sameGenerations, ← kept] at sheds
    exact .observed _ _ now stamps stamping (kept.trans advances) sheds

end Cluster

end BrokerFleet
