import BrokerFleet.Proofs.Fleet.Basic
import BrokerFleet.Proofs.Lifecycle.Episode
import BrokerFleet.Proofs.Pass.Stamping
import BrokerFleet.Proofs.Pass.Unhindered

/-!
Generations only shrink, and only once they are drained. Over any run of passes the size of a generation
other than the one of the desired template never grows. It falls by one replica at a time, and only in a pass
that had a report of that replica's node being drained.
-/

namespace BrokerFleet

open Kubernetes

namespace Cluster

def Tallies (c : Cluster) (except : String → String → Prop) (p : ClusterPass) (f : Fleet) : Prop :=
  ∀ ns, c.placed = .ok ns → ∀ g ∈ p.generations, ¬ except ns g.name → f ns g.name = some g.replicas

variable {c : Cluster} {pace : Pace} {p q : ClusterPass} {log : List Exchange}
  {r : Except Failure ClusterPass} {f after : Fleet} {except : String → String → Prop}

theorem Tallies.of_collect {ns name : String} {sets : List StatefulSet} {pods : List Pod}
    {update : Option String} (place : c.placed = .ok ns) (resolved : except ns name)
    (shown : ∀ set ∈ sets, ∀ other, set.name = some other → other ≠ name →
      f ns other = some (set.replicas.getD 1)) :
    c.Tallies except { p with generations := Generation.collect sets pods, update } f := by
  intro otherNs placed g member other
  cases place.symm.trans placed
  obtain ⟨set, listed, isOf⟩ := Generation.mem_collect member
  rw [shown set listed g.name isOf.name, isOf.replicas]
  intro same
  subst same
  exact other resolved

theorem Stamps.tallies {ns name : String} {sets : List StatefulSet}
    (stamps : c.Stamps p ns name sets log r) (place : c.placed = .ok ns) (resolved : except ns name)
    (shows : f.Shows ns sets) (along : f.Along log after) :
    (∀ otherNs other, ¬ except otherNs other → after otherNs other = f otherNs other) ∧
      ∀ next, r = .ok next → c.Tallies except next after := by
  have sizing : ∀ {replicas : Int32} {reply : Except ApiError StatefulSet} {between : Fleet},
      f.Sized ns name replicas reply between →
      (∀ otherNs other, ¬ except otherNs other → between otherNs other = f otherNs other) ∧
      ∀ set pods update, reply = .ok set →
        c.Tallies except
          { p with generations := Generation.collect (putSet set sets) pods, update } between := by
    intro replicas reply between sized
    constructor
    · intro otherNs other unresolved
      apply sized.other
      intro h
      rcases h with ⟨rfl, rfl⟩
      exact unresolved resolved
    · intro set pods update same
      subst same
      refine Tallies.of_collect place resolved fun found member other named differs => ?_
      rcases mem_putSet member with rfl | listed
      · have same : some other = some name := named.symm.trans sized.1
        cases same
        exact absurd rfl differs
      · rw [sized.other fun same => differs same.2]
        exact shows found listed other named
  cases stamps with
  | kept quiet known =>
      obtain rfl := along.of_quiet quiet
      refine ⟨fun _ _ _ => rfl, ?_⟩
      intro next ok
      obtain ⟨pods, rfl⟩ := known next ok
      exact Tallies.of_collect place resolved fun set listed other named _ => shows set listed other named
  | scaled reply quiet known =>
      obtain ⟨between, sized, later⟩ := Fleet.along_cons.mp along
      obtain rfl := later.of_quiet quiet
      refine ⟨(sizing sized).1, ?_⟩
      intro next ok
      obtain ⟨set, pods, answered, rfl⟩ := known next ok
      exact (sizing sized).2 set pods _ answered
  | created manifest named reply quiet known =>
      obtain ⟨between, sized, later⟩ := Fleet.along_cons.mp along
      obtain rfl := later.of_quiet quiet
      rw [Fleet.Step, named] at sized
      refine ⟨(sizing sized).1, ?_⟩
      intro next ok
      obtain ⟨set, pods, answered, rfl⟩ := known next ok
      exact (sizing sized).2 set pods _ answered

/-- Before the evacuation, a step sizes no generation but the update generation, and it hands on sizes that
are those of the fleet. -/
theorem step_tallies {step : Step} (notEvacuating : step ≠ .evacuation)
    (ends : (step.run c pace p).Ends log r) (along : f.Along log after)
    (resolved : ∀ ns name, c.Resolves log ns name → except ns name) (tallies : c.Tallies except p f) :
    (∀ ns name, ¬ except ns name → after ns name = f ns name) ∧
      ∀ next, r = .ok next → c.Tallies except next after := by
  by_cases stamping : step = .generations
  · subst stamping
    rcases generationStep_ends ends with ⟨quiet, e, rfl⟩ | ⟨ns, name, sets, rest, place, resolves, rfl, stamps⟩
    · rw [along.of_quiet quiet]
      exact ⟨fun _ _ _ => rfl, fun _ ok => nomatch ok⟩
    · obtain ⟨between, ⟨rfl, shows⟩, later⟩ := Fleet.along_cons.mp along
      exact stamps.tallies place (resolved ns name resolves) shows later
  · obtain rfl := along.of_quiet (Step.run_quiet step stamping notEvacuating ends)
    refine ⟨fun _ _ _ => rfl, ?_⟩
    intro next same ns place g member
    subst same
    rw [Step.run_generations stamping notEvacuating log next ends] at member
    exact tallies ns place g member

theorem runSteps_tallies {steps : List Step} {failure : Option (Step × Failure)}
    (notEvacuating : .evacuation ∉ steps) (run : (c.runSteps pace steps p).Yields log (q, failure))
    (along : f.Along log after) (resolved : ∀ ns name, c.Resolves log ns name → except ns name)
    (tallies : c.Tallies except p f) :
    (∀ ns name, ¬ except ns name → after ns name = f ns name) ∧
      (failure = none → c.Tallies except q after) := by
  induction steps generalizing p log f with
  | nil =>
      obtain ⟨rfl, same⟩ := runSteps_nil.mp run
      cases same
      rw [Fleet.along_nil.mp along]
      exact ⟨fun _ _ _ => rfl, fun _ => tallies⟩
  | cons step rest ih =>
      have other : step ≠ .evacuation := fun same => notEvacuating (same ▸ List.mem_cons_self)
      have others : .evacuation ∉ rest := fun member => notEvacuating (List.mem_cons_of_mem _ member)
      rcases runSteps_cons.mp run with
        ⟨e, taken, same⟩ | ⟨next, taken, -, same⟩ | ⟨next, first, later, rfl, taken, -, follows⟩
      · cases same
        exact ⟨(step_tallies other taken along resolved tallies).1, fun none => nomatch none⟩
      · cases same
        obtain ⟨frame, known⟩ := step_tallies other taken along resolved tallies
        exact ⟨frame, fun _ => known _ rfl⟩
      · obtain ⟨between, before, rest⟩ := Fleet.along_append.mp along
        obtain ⟨frame, known⟩ := step_tallies other taken before
          (fun ns name h => resolved ns name (h.mono fun _ => List.mem_append_left _)) tallies
        obtain ⟨frame', known'⟩ := ih others follows rest
          (fun ns name h => resolved ns name (h.mono fun _ => List.mem_append_right _)) (known next rfl)
        exact ⟨fun ns name h => (frame' ns name h).trans (frame ns name h), known'⟩

/-! ### Evacuating -/

def SettlesOn (latest : Cluster) (log : List Exchange) (status : ClusterStatus) : Prop :=
  (∃ ns reply, ⟨.write ns (.clusterStatus latest.name status), reply⟩ ∈ log) ∨
    (LeavesStatus log ∧ latest.status = some status)

theorem runSteps_update {failure : Option (Step × Failure)} {u : BlueGreenUpdate}
    (recorded : p.status.blueGreenUpdate = some u)
    (run : (c.runSteps pace [.evacuation, .readinessGates, .listeners] p).Yields log (q, failure)) :
    ∃ records, q.status.blueGreenUpdate = some { u with evacuations := records } := by
  have kept := runSteps_keeps_episode (by decide) run
  unfold ClusterStatus.episode at kept
  rw [recorded] at kept
  obtain ⟨later, update, same⟩ := Option.map_eq_some_iff.mp kept
  obtain ⟨origin, current, startedAt⟩ := Episode.mk.inj same
  refine ⟨later.evacuations, ?_⟩
  rw [update, ← origin, ← current, ← startedAt]

theorem Moves.fleet (moves : c.Moves p log) (along : f.Along log after) (tallies : c.Tallies except p f) :
    after = f ∨ ∃ (asked : List Exchange) (grounds : Grounds c p asked) (record : Evacuation) (ns : String),
      (∀ x ∈ asked, x ∈ log) ∧ record ∈ grounds.report.evacuations ∧ record.node = grounds.target ∧
      record.isDrained = true ∧ c.placed = .ok ns ∧
      after = f.put ns grounds.outgoing.name (grounds.outgoing.replicas - 1) := by
  cases moves with
  | shrink grounds record listed same drained place reply before later =>
      obtain ⟨between, asked, moved⟩ := Fleet.along_append.mp along
      obtain rfl := asked.of_quiet before
      obtain ⟨next, sized, rest⟩ := Fleet.along_cons.mp moved
      obtain rfl := rest.of_quiet later
      cases reply with
      | ok set =>
          exact .inr ⟨_, grounds, record, _, fun _ => List.mem_append_left _, listed, same, drained, place,
            sized.2.2⟩
      | error e =>
          rcases sized with rfl | taken
          · exact .inl rfl
          · exact .inr ⟨_, grounds, record, _, fun _ => List.mem_append_left _, listed, same, drained, place,
              taken⟩
  | evacuate grounds order reply before later =>
      obtain ⟨between, asked, moved⟩ := Fleet.along_append.mp along
      obtain rfl := asked.of_quiet before
      obtain ⟨next, sent, rest⟩ := Fleet.along_cons.mp moved
      obtain rfl := rest.of_quiet later
      exact .inl sent

theorem runSteps_evacuation {failure : Option (Step × Failure)}
    (run : (c.runSteps pace [.evacuation, .readinessGates, .listeners] p).Yields log (q, failure)) :
    ∃ moved rest r, log = moved ++ rest ∧ (c.evacuationStep pace p).Ends moved r ∧ Quiet rest := by
  rcases runSteps_cons.mp run with
    ⟨e, taken, -⟩ | ⟨next, taken, -, -⟩ | ⟨next, first, later, rfl, taken, -, follows⟩
  · exact ⟨log, [], _, (List.append_nil log).symm, taken, quiet_nil⟩
  · exact ⟨log, [], _, (List.append_nil log).symm, taken, quiet_nil⟩
  · refine ⟨first, later, _, rfl, taken, runSteps_forall (fun step member p log r ends => ?_) follows⟩
    refine Step.run_quiet step ?_ ?_ ends
    · intro same
      subst same
      simp at member
    · intro same
      subst same
      simp at member

end Cluster

theorem BlueGreenUpdate.delayRemaining?_none {startedAt : String} {delay : Int32} {now started : Instant}
    (elapsed : delayRemaining? startedAt delay now = none) (read : Rfc3339.parse? startedAt = some started) :
    (started.add (.ofSeconds (max delay.toInt 0).toNat)).nanosSince now ≤ 0 := by
  rw [delayRemaining?, read, Option.bind_some] at elapsed
  have seconds : delay.toInt.toNat = (max delay.toInt 0).toNat := by omega
  rw [seconds] at elapsed
  unfold Instant.remaining? at elapsed
  dsimp only at elapsed
  split at elapsed
  · cases elapsed
  · next reached => exact Int.not_lt.mp reached

/-! ### Passes -/

/-- In this pass the desired template belongs to the generation of that name. -/
def Updates (log : List Exchange) (ns name : String) : Prop :=
  ∃ clusterNs clusterName latest, ⟨.getCluster clusterNs clusterName, .ok latest⟩ ∈ log ∧
    latest.Resolves log ns name

/-- What a pass goes by when it takes the last of some replicas from a generation: it is the origin of the
update that is recorded, whose delay is over, and the broker reported the node of that replica as drained. -/
inductive Retires (log : List Exchange) (ns name : String) (replicas : Int32) : Prop where
  | drained {clusterNs clusterName : String} {latest : Cluster} {status : ClusterStatus}
      {update : BlueGreenUpdate} {now : Instant} {peer : Endpoint} {port : Nat} {credentials : Credentials}
      {response : Response} {document : Option Json} {report : LoadReport} {record : Evacuation}
      (fetched : ⟨.getCluster clusterNs clusterName, .ok latest⟩ ∈ log)
      (place : latest.placed = .ok ns)
      (settles : latest.SettlesOn log status)
      (recorded : status.blueGreenUpdate = some update)
      (origin : update.originGeneration = name)
      (looked : ⟨.clock, now⟩ ∈ log)
      (due : ∀ started, Rfc3339.parse? update.startedAt = some started →
        (started.add (.ofSeconds (max latest.spec.updateStrategy.initialDelaySeconds.toInt 0).toNat)).nanosSince
          now ≤ 0)
      (answered : ⟨.send peer port credentials .loadStatus, .ok response⟩ ∈ log)
      (payload : response.payload ManagementRequest.loadStatus.path = .ok document)
      (decoded : Response.decode ManagementRequest.loadStatus.path LoadReport.ofReport? document = .ok report)
      (listed : record ∈ report.evacuations)
      (last : latest.nodeOf (name ++ "-" ++ toString (replicas - 1).toInt) = .ok record.node)
      (noConnections : record.stats.currentConnected = 0)
      (noSessions : record.stats.currentSessions = 0)
      (prohibiting : record.state = "prohibiting")
      (positive : 0 < replicas)

/-- The sizes before and after a pass: those of generations besides the update generation stay, but for one
of them at most, which loses its last replica. -/
def ShrinksAtMostOne (before : Fleet) (log : List Exchange) (after : Fleet) : Prop :=
  ∃ retired : Option (String × String), ∀ ns name, ¬ Updates log ns name →
    after ns name = before ns name ∨
      (retired = some (ns, name) ∧ ∃ replicas, before ns name = some replicas ∧
        after ns name = some (replicas - 1) ∧ 0 ≤ replicas - 1 ∧ replicas - 1 < replicas ∧
        Retires log ns name replicas)

namespace Cluster

variable {c latest : Cluster} {pace : Pace} {log : List Exchange} {f after : Fleet}

theorem writeStatus_quiet {status : ClusterStatus} {r : Except Failure Unit}
    (h : (c.writeStatus status).Ends log r) : Quiet log := by
  rcases writeStatus_ends h with ⟨rfl, -⟩ | ⟨rfl, -⟩ | ⟨ns, reply, -, rfl⟩
  · exact quiet_nil
  · exact quiet_nil
  · exact quiet_cons (fun h => h) quiet_nil

theorem writeStatus_unlisted {status : ClusterStatus} {r : Except Failure Unit}
    (h : (c.writeStatus status).Ends log r) :
    ∀ x ∈ log, ¬ x.call.IsListing ∧ ∀ ns name, x.call ≠ .getCluster ns name := by
  intro x member
  rcases writeStatus_ends h with ⟨rfl, -⟩ | ⟨rfl, -⟩ | ⟨_, _, -, rfl⟩
  · cases member
  · cases member
  · cases List.mem_singleton.mp member
    exact ⟨fun listing => listing, fun _ _ same => nomatch same⟩

/-- The steps of a pass leave all sizes but those of the update generation, or the evacuation took the last
replica of the origin. -/
theorem steps_shrink {except : String → String → Prop} {s : ClusterStatus} {q : ClusterPass}
    {failure : Option (Step × Failure)}
    (run : (latest.runSteps pace Step.all (.start s)).Yields log (q, failure)) (along : f.Along log after)
    (resolved : ∀ ns name, latest.Resolves log ns name → except ns name) :
    (∀ ns name, ¬ except ns name → after ns name = f ns name) ∨
      ∃ (p : ClusterPass) (asked : List Exchange) (grounds : Grounds latest p asked) (record : Evacuation)
        (records : List Evacuation) (ns : String),
        (∀ x ∈ asked, x ∈ log) ∧ latest.placed = .ok ns ∧ record ∈ grounds.report.evacuations ∧
        record.node = grounds.target ∧ record.isDrained = true ∧
        q.status.blueGreenUpdate = some { grounds.update with evacuations := records } ∧
        (∀ otherNs other, ¬ except otherNs other → ¬ (otherNs = ns ∧ other = grounds.outgoing.name) →
          after otherNs other = f otherNs other) ∧
        (¬ except ns grounds.outgoing.name →
          f ns grounds.outgoing.name = some grounds.outgoing.replicas ∧
          after ns grounds.outgoing.name = some (grounds.outgoing.replicas - 1)) := by
  have split : Step.all = [.initResources, .generations, .nodes, .stateMachine] ++
      [.evacuation, .readinessGates, .listeners] := rfl
  have untouched : latest.Tallies except (.start s) f := fun _ _ _ member => nomatch member
  rw [split] at run
  rcases runSteps_append rfl run with ⟨stops, -⟩ | ⟨p, first, later, rfl, ⟨arrives, -⟩, follows⟩
  · exact .inl (runSteps_tallies (by decide) stops along resolved untouched).1
  obtain ⟨between, before, afterwards⟩ := Fleet.along_append.mp along
  obtain ⟨frame, known⟩ := runSteps_tallies (by decide) arrives before
    (fun ns name h => resolved ns name (h.mono fun _ => List.mem_append_left _)) untouched
  have tallies : latest.Tallies except p between := known rfl
  obtain ⟨moved, rest, r, rfl, taken, quiet⟩ := runSteps_evacuation follows
  obtain ⟨final, moving, ending⟩ := Fleet.along_append.mp afterwards
  obtain rfl := ending.of_quiet quiet
  rcases evacuationStep_ends taken with still | moves
  · obtain rfl := moving.of_quiet still
    exact .inl frame
  rcases moves.fleet moving tallies with
    rfl | ⟨asked, grounds, record, ns, sub, listed, same, drained, place, taken⟩
  · exact .inl frame
  · obtain ⟨records, update⟩ := runSteps_update grounds.recorded follows
    refine .inr ⟨p, asked, grounds, record, records, ns, ?_, place, listed, same, drained, update, ?_, ?_⟩
    · exact fun x member => List.mem_append_right _ (List.mem_append_left _ (sub x member))
    · intro otherNs other unresolved differs
      rw [taken, Fleet.put_other differs]
      exact frame otherNs other unresolved
    · intro unresolved
      have member := (Generation.find?_spec grounds.found).1
      rw [← frame ns _ unresolved, taken]
      exact ⟨tallies ns place _ member unresolved, Fleet.put_same⟩

theorem settlesOn_of_writeStatus {status : ClusterStatus} {before rest : List Exchange} {ns : String}
    {r : Except Failure Unit} (leaves : LeavesStatus before) (place : latest.placed = .ok ns)
    (wrote : (latest.writeStatus status).Ends rest r) : latest.SettlesOn (before ++ rest) status := by
  rcases writeStatus_ends wrote with ⟨rfl, same⟩ | ⟨-, e, noPlace⟩ | ⟨ns, reply, -, rfl⟩
  · rw [List.append_nil]
    exact .inr ⟨leaves, same⟩
  · cases place.symm.trans noPlace
  · exact .inl ⟨ns, reply, List.mem_append_right _ List.mem_cons_self⟩

theorem pass_looks_once {r : Except Failure Action} (ends : (c.pass pace).Ends log r) {clusterNs clusterName : String}
    (fetched : ⟨.getCluster clusterNs clusterName, .ok latest⟩ ∈ log) :
    ListsOnce log ∧ ∀ ns name other, ⟨.getCluster ns name, .ok other⟩ ∈ log → other = latest := by
  rcases pass_ends ends with rfl | ⟨ns, reply, rest, rfl, rfl | ⟨stored, rfl, passed⟩⟩
  · cases fetched
  · cases List.mem_singleton.mp fetched
    refine ⟨listsOnce_of_unlisted fun x member listing => ?_, fun ns name other member => ?_⟩
    · rw [List.mem_singleton.mp member] at listing
      exact listing
    · cases List.mem_singleton.mp member
      rfl
  obtain ⟨q, failure, steps, settledAt, others, written, rfl, run, wrote⟩ := passOver_ends passed
  have settling : ∀ x ∈ (⟨.clock, settledAt⟩ :: others : List Exchange), ¬ x.call.IsListing ∧
      ∀ ns name, x.call ≠ .getCluster ns name := by
    intro x member
    rcases List.mem_cons.mp member with rfl | later
    · exact ⟨fun h => h, fun _ _ h => nomatch h⟩
    · exact writeStatus_unlisted wrote x later
  have alone : ∀ otherNs name other, ⟨.getCluster otherNs name, .ok other⟩ ∈
      (⟨.getCluster ns c.name, .ok stored⟩ :: (steps ++ ⟨.clock, settledAt⟩ :: others) : List Exchange) →
      other = stored := by
    intro otherNs name other member
    rcases List.mem_cons.mp member with same | later
    · cases same
      rfl
    · rcases List.mem_append.mp later with within | last
      · exact absurd rfl (runSteps_forall (fun step _ p log r ends => Step.run_unfetched ends) run _ within
          otherNs name)
      · exact absurd rfl ((settling _ last).2 otherNs name)
  obtain rfl := alone _ _ _ fetched
  refine ⟨?_, alone⟩
  have once := (runSteps_listsOnce (by decide) run).before fun x member => (settling x member).1
  exact once.cons fun listing => listing

theorem updates_unique {r : Except Failure Action} (ends : (c.pass pace).Ends log r) {ns name ns' name' : String}
    (updates : Updates log ns name) (updates' : Updates log ns' name') : ns' = ns ∧ name' = name := by
  obtain ⟨_, _, latest, fetched, resolves⟩ := updates
  obtain ⟨_, _, latest', fetched', resolves'⟩ := updates'
  obtain ⟨once, alone⟩ := pass_looks_once ends fetched
  obtain rfl := alone _ _ _ fetched'
  exact resolves.unique once resolves'

theorem pass_shrinks {r : Except Failure Action} (ends : (c.pass pace).Ends log r)
    (along : f.Along log after) : ShrinksAtMostOne f log after := by
  have unchanged : Quiet log → ShrinksAtMostOne f log after := by
    intro quiet
    rw [along.of_quiet quiet]
    exact ⟨none, fun _ _ _ => .inl rfl⟩
  rcases pass_ends ends with rfl | ⟨clusterNs, reply, rest, rfl, rfl | ⟨latest, rfl, passed⟩⟩
  · exact unchanged quiet_nil
  · exact unchanged (quiet_cons (fun h => h) quiet_nil)
  obtain ⟨q, failure, steps, settledAt, others, written, rfl, run, wrote⟩ := passOver_ends passed
  obtain ⟨start, first, passing⟩ := Fleet.along_cons.mp along
  obtain rfl : start = f := first
  obtain ⟨final, stepping, ending⟩ := Fleet.along_append.mp passing
  obtain rfl := ending.of_quiet (quiet_cons (fun h => h) (writeStatus_quiet wrote))
  have inSteps : ∀ x ∈ steps, x ∈ (⟨.getCluster clusterNs c.name, .ok latest⟩ ::
      (steps ++ ⟨.clock, settledAt⟩ :: others) : List Exchange) :=
    fun x member => List.mem_cons_of_mem _ (List.mem_append_left _ member)
  have fetched : ⟨.getCluster clusterNs c.name, .ok latest⟩ ∈ (⟨.getCluster clusterNs c.name, .ok latest⟩ ::
      (steps ++ ⟨.clock, settledAt⟩ :: others) : List Exchange) := List.mem_cons_self
  rcases steps_shrink run stepping
    (fun ns name h => (⟨clusterNs, c.name, latest, fetched, h.mono inSteps⟩ : Updates _ ns name)) with
    frame | ⟨p, asked, grounds, record, records, ns, sub, place, listed, same, drained, update, frame, shrinks⟩
  · exact ⟨none, fun ns name other => .inl (frame ns name other)⟩
  refine ⟨some (ns, grounds.outgoing.name), fun otherNs other unresolved => ?_⟩
  by_cases here : otherNs = ns ∧ other = grounds.outgoing.name
  · obtain ⟨rfl, rfl⟩ := here
    obtain ⟨counted, shrunk⟩ := shrinks unresolved
    have leaves : LeavesStatus (⟨.getCluster clusterNs c.name, .ok latest⟩ ::
        (steps ++ [⟨.clock, settledAt⟩])) := by
      intro x member
      simp only [List.mem_cons, List.mem_append, List.not_mem_nil, or_false] at member
      rcases member with rfl | within | rfl
      · exact fun _ _ _ h => nomatch h
      · exact runSteps_forall (fun step _ p log r ends => Step.run_leavesStatus ends) run x within
      · exact fun _ _ _ h => nomatch h
    have settles := settlesOn_of_writeStatus leaves place wrote
    rw [List.cons_append, List.append_assoc, List.singleton_append] at settles
    obtain ⟨document, payload, decoded⟩ := grounds.reported
    obtain ⟨⟨noConnections, noSessions⟩, prohibiting⟩ : (record.stats.currentConnected = 0 ∧
        record.stats.currentSessions = 0) ∧ record.state = "prohibiting" := by
      simpa [Evacuation.isDrained] using drained
    obtain ⟨nonneg, less⟩ := Generation.pred_of_live grounds.live
    refine .inr ⟨rfl, _, counted, shrunk, nonneg, less, ?_⟩
    exact .drained fetched place settles update (Generation.find?_spec grounds.found).2.symm
      (inSteps _ (sub _ grounds.looked))
      (fun started read => BlueGreenUpdate.delayRemaining?_none grounds.elapsed read)
      (inSteps _ (sub _ grounds.answered)) payload decoded listed
      (grounds.last.trans (congrArg Except.ok same.symm)) noConnections noSessions prohibiting grounds.live
  · exact .inl (frame otherNs other unresolved here)

end Cluster

/-! ### Runs of passes -/

/-- A pass, with the fleet before and after it. -/
structure Passage where
  before : Fleet
  log : List Exchange
  after : Fleet

/-- Passes over a cluster that follow each other, while nobody else sizes anything. -/
inductive Fleet.Run (pace : Pace) : Fleet → List Passage → Fleet → Prop where
  | nil (f : Fleet) : Run pace f [] f
  | pass {f between after : Fleet} {passages : List Passage} {c : Cluster} {log : List Exchange}
      {r : Except Failure Action} (ends : (c.pass pace).Ends log r) (along : f.Along log between)
      (rest : Run pace between passages after) : Run pace f (⟨f, log, between⟩ :: passages) after

variable {pace : Pace} {f after : Fleet} {passages : List Passage}

/-- The size of a set has not grown. A set that was not there has not come to be. -/
def Fleet.NotAbove (after before : Fleet) (ns name : String) : Prop :=
  (before ns name = none ∧ after ns name = none) ∨
    ∃ most least, before ns name = some most ∧ after ns name = some least ∧ least ≤ most ∧
      (0 ≤ most → 0 ≤ least)

theorem Fleet.NotAbove.refl {ns name : String} : f.NotAbove f ns name := by
  unfold NotAbove
  cases f ns name with
  | none => exact .inl ⟨rfl, rfl⟩
  | some n => exact .inr ⟨n, n, rfl, rfl, Int32.le_refl n, fun h => h⟩

theorem Fleet.NotAbove.trans {between : Fleet} {ns name : String} (later : after.NotAbove between ns name)
    (earlier : between.NotAbove f ns name) : after.NotAbove f ns name := by
  rcases earlier with ⟨absent, still⟩ | ⟨most, middle, had, has, less, positive⟩
  · rcases later with ⟨-, gone⟩ | ⟨_, _, has, -⟩
    · exact .inl ⟨absent, gone⟩
    · cases still.symm.trans has
  · rcases later with ⟨gone, -⟩ | ⟨_, least, had', has', less', positive'⟩
    · cases gone.symm.trans has
    · cases has.symm.trans had'
      exact .inr ⟨most, least, had, has', Int32.le_trans less' less, fun h => positive' (positive h)⟩

theorem ShrinksAtMostOne.notAbove {log : List Exchange} {ns name : String}
    (shrinks : ShrinksAtMostOne f log after) (other : ¬ Updates log ns name) :
    after.NotAbove f ns name := by
  obtain ⟨retired, sizes⟩ := shrinks
  rcases sizes ns name other with same | ⟨-, replicas, had, has, nonneg, less, -⟩
  · have still : f.NotAbove f ns name := .refl
    unfold Fleet.NotAbove at still ⊢
    rwa [same]
  · exact .inr ⟨replicas, replicas - 1, had, has, Int32.le_of_lt less, fun _ => nonneg⟩

theorem Fleet.Run.shrinks (run : Fleet.Run pace f passages after) :
    ∀ x ∈ passages, ShrinksAtMostOne x.before x.log x.after ∧
      ∀ ns name ns' name', Updates x.log ns name → Updates x.log ns' name' → ns' = ns ∧ name' = name := by
  induction run with
  | nil f => exact fun _ member => nomatch member
  | pass ends along rest ih =>
      intro x member
      rcases List.mem_cons.mp member with rfl | later
      · exact ⟨Cluster.pass_shrinks ends along, fun _ _ _ _ => Cluster.updates_unique ends⟩
      · exact ih x later

theorem Fleet.Run.notAbove {ns name : String} (run : Fleet.Run pace f passages after)
    (other : ∀ x ∈ passages, ¬ Updates x.log ns name) : after.NotAbove f ns name := by
  induction run with
  | nil f => exact .refl
  | pass ends along rest ih =>
      have first := (Cluster.pass_shrinks ends along).notAbove (other _ List.mem_cons_self)
      exact (ih fun x member => other x (List.mem_cons_of_mem _ member)).trans first

/-- Over any run of passes, each pass takes at most one replica from the generations besides its one update
generation, and only for good reason; so a generation that is never the update generation never grows, and
never shrinks below zero. -/
theorem generations_only_shrink_when_drained (run : Fleet.Run pace f passages after) :
    (∀ x ∈ passages, ShrinksAtMostOne x.before x.log x.after ∧
      ∀ ns name ns' name', Updates x.log ns name → Updates x.log ns' name' → ns' = ns ∧ name' = name) ∧
    ∀ ns name, (∀ x ∈ passages, ¬ Updates x.log ns name) → after.NotAbove f ns name :=
  ⟨run.shrinks, fun _ _ other => run.notAbove other⟩

def sampleFleet : Fleet :=
  fun ns name => if ns = "default" ∧ (name = "broker-first" ∨ name = "broker-second") then some 1 else none

theorem sampleFleet_shows : sampleFleet.Shows "default" [secondSet, firstSet] := by
  intro set member name named
  simp only [List.mem_cons, List.not_mem_nil, or_false] at member
  rcases member with rfl | rfl
  · cases named
    rfl
  · cases named
    rfl

theorem drained_generation_shrinks : ∃ (after : Fleet) (passage : Passage),
    Fleet.Run default sampleFleet [passage] after ∧ ¬ Updates passage.log "default" "broker-first" ∧
    ShrinksAtMostOne passage.before passage.log passage.after ∧
    sampleFleet "default" "broker-first" = some 1 ∧ after "default" "broker-first" = some 0 := by
  have left : ({ ClusterStatus.initial with
      currentState := .blueGreenUpdating
      blueGreenUpdate := some sampleUpdate } : ClusterStatus).currentState ≠ .empty := by decide
  generalize hs : ({ ClusterStatus.initial with
    currentState := .blueGreenUpdating
    blueGreenUpdate := some sampleUpdate } : ClusterStatus) = s at left
  have known : s.blueGreenUpdate = some sampleUpdate := by rw [← hs]
  have place : (sampleCluster "broker:2" s).placed = .ok "default" := rfl
  obtain ⟨before, later, asked, answered, arrives⟩ := sample_reaches default "broker:2" "broker-second" true true
    left (.inr rfl) rfl rfl rfl (sampleTime 2)
  obtain ⟨rest, r, -, failed, shrinks⟩ := sample_shrinks default
    (sample_keeps left known (sampleTime 2)) rfl rfl (by decide +kernel) (.error (.answered 504))
  obtain ⟨rfl, rfl⟩ := failed _ rfl
  obtain ⟨log, others, written, shown, wrote, ends⟩ := Cluster.pass_fails place rfl place
    (Cluster.runSteps_fails arrives shrinks) (sampleTime 3)
  have fetched : ⟨.getCluster "default" (sampleCluster "broker:2" s).name, .ok (sampleCluster "broker:2" s)⟩ ∈
      log := by
    rw [shown]
    exact List.mem_cons_self
  have listed : ⟨.listSets "default" (sampleCluster "broker:2" s).selector, .ok [secondSet, firstSet]⟩ ∈ log := by
    simp [shown]
  have along : sampleFleet.Along log (sampleFleet.put "default" "broker-first" (1 - 1)) := by
    have once := (Cluster.pass_looks_once ends fetched).1
    rw [shown] at once listed ⊢
    refine Fleet.along_cons.mpr ⟨sampleFleet, rfl, Fleet.along_append.mpr ⟨_, Fleet.along_append.mpr
      ⟨sampleFleet, ?_, Fleet.along_cons.mpr ⟨sampleFleet, rfl, Fleet.along_cons.mpr ⟨sampleFleet, rfl,
        Fleet.along_cons.mpr ⟨_, .inr rfl, .nil _⟩⟩⟩⟩, Fleet.along_cons.mpr ⟨_, rfl, ?_⟩⟩⟩
    · refine Fleet.along_of_quiet (quiet_append asked (quiet_cons (fun h => h) answered)) ?_
      intro ns selector sets member
      have same := once _ (List.mem_cons_of_mem _ (List.mem_append_left _ (List.mem_append_left _ member)))
        _ listed trivial trivial
      cases same
      exact sampleFleet_shows
    · refine Fleet.along_of_quiet (Cluster.writeStatus_quiet wrote) fun _ _ _ member => ?_
      exact absurd trivial (Cluster.writeStatus_unlisted wrote _ member).1
  have other : ¬ Updates log "default" "broker-first" := by
    intro first
    have second : Updates log "default" "broker-second" :=
      ⟨_, _, _, fetched, rfl, _, _, _, sample_desired, listed, sample_resolves rfl, rfl⟩
    exact absurd (Cluster.updates_unique ends first second).2 (by decide)
  have run := Fleet.Run.pass ends along (.nil _)
  have shrinking := ((generations_only_shrink_when_drained run).1 _ List.mem_cons_self).1
  exact ⟨_, _, run, other, shrinking, rfl, rfl⟩

end BrokerFleet
