import BrokerFleet.Proofs.Evacuation.Aim
import BrokerFleet.Proofs.Fleet.Shrinking
import BrokerFleet.Proofs.Generations.Collection
import BrokerFleet.Proofs.Job.Turns

/-!
Where an evacuation begins. The order to evacuate a node is put together from the generations and nodes of the same
pass and from the report of the broker. It names the last replica's node of the origin, and moves its clients to the
replicas of the current generation that are ready and reported as running, none of which belongs to the origin.
-/

namespace BrokerFleet

open Kubernetes Attempt

/-- Pods that have names of their own, and no more than one StatefulSet for an owner each. -/
structure Kubernetes.Pod.Apart (pods : List Pod) : Prop where
  named : (pods.map (·.name)).Nodup
  owned : ∀ pod ∈ pods, ∀ a ∈ pod.owners, ∀ b ∈ pod.owners,
    a.kind = "StatefulSet" → b.kind = "StatefulSet" → a.name = b.name

def Cluster.nodeIn (c : Cluster) (ns pod : String) : String :=
  Cluster.nodeAt (c.hostOf ns pod)

/-- The nodes that clients may be moved to: of the replicas that are ready those whose node runs, in the order of the
replicas. -/
def Cluster.targets (c : Cluster) (ns : String) (incoming : Generation) (nodes : List ClusterNode) : List String :=
  (incoming.pods.filter fun pod =>
    pod.ready && nodes.any fun n => n.isRunning && n.name == c.nodeIn ns pod.name).map fun pod => c.nodeIn ns pod.name

def Cluster.recordsOf (c : Cluster) (ns : String) (g : Generation) (records : List Evacuation) : List Evacuation :=
  records.filter fun e => g.pods.any fun pod => e.node == c.nodeIn ns pod.name

/-! ### Pods of generations -/

namespace Generation

variable {sets : List StatefulSet} {pods : List Pod} {g h : Generation}

theorem name_of_shared_pod (apart : Pod.Apart pods) (hg : g ∈ collect sets pods) (hh : h ∈ collect sets pods)
    {a b : Replica} (ha : a ∈ g.pods) (hb : b ∈ h.pods) (same : a.name = b.name) : g.name = h.name := by
  have listed : ∀ {k : Generation} {r : Replica}, k ∈ collect sets pods → r ∈ k.pods →
      ∃ pod ∈ pods, owns k.name pod = true ∧ r.name = pod.name := by
    intro k r collected member
    obtain ⟨pod, owned, rfl⟩ := List.mem_map.mp ((pods_of_collect collected).mem_iff.mp member)
    exact ⟨pod, (List.mem_filter.mp owned).1, (List.mem_filter.mp owned).2, rfl⟩
  obtain ⟨pod, hpod, ownedByG, named⟩ := listed hg ha
  obtain ⟨pod', hpod', ownedByH, named'⟩ := listed hh hb
  obtain rfl : pod = pod' :=
    List.inj_on_of_nodup_map apart.named hpod hpod' (named.symm.trans (same.trans named'))
  simp only [owns, List.any_eq_true, Bool.and_eq_true, beq_iff_eq] at ownedByG ownedByH
  obtain ⟨x, hx, xKind, xName⟩ := ownedByG
  obtain ⟨y, hy, yKind, yName⟩ := ownedByH
  rw [← xName, ← yName]
  exact apart.owned pod hpod x hx y hy xKind yKind

end Generation

namespace Cluster

variable {c : Cluster} {pace : Pace} {p next : ClusterPass} {ns : String} {log before : List Exchange}
  {r : Except Failure ClusterPass} {s : ClusterStatus} {incoming : Generation} {nodes : List ClusterNode}

/-! ### Nodes -/

theorem nodeIn_inj {pod pod' : String} (same : c.nodeIn ns pod = c.nodeIn ns pod') : pod = pod' := by
  simpa [nodeIn, nodeAt, hostOf] using same

theorem nodeOf_placed (place : c.placed = .ok ns) (pod : String) : c.nodeOf pod = .ok (c.nodeIn ns pod) := by
  simp [nodeOf, place, nodeIn, Except.map]

theorem ns?_of_placed (place : c.placed = .ok ns) : c.ns? = some ns := by
  unfold placed at place
  split at place
  · next found => simp_all
  · cases place

theorem nodesOf_placed (place : c.placed = .ok ns) (pods : List Replica) :
    pods.mapM (fun pod => c.nodeOf pod.name) = .ok (pods.map fun pod => c.nodeIn ns pod.name) := by
  induction pods with
  | nil => rfl
  | cons pod rest ih =>
      rw [List.mapM_cons, nodeOf_placed place, ih]
      rfl

theorem incomingNodes?_placed (place : c.placed = .ok ns) :
    c.incomingNodes? (some incoming) nodes = some (c.targets ns incoming nodes) := by
  have named : ∀ pods : List Replica,
      pods.mapM (fun pod => c.nodeName? pod.name) = some (pods.map fun pod => c.nodeIn ns pod.name) := by
    intro pods
    induction pods with
    | nil => rfl
    | cons pod rest ih =>
        rw [List.mapM_cons, ih, nodeName?, replicaHost?, ns?_of_placed place]
        rfl
  simp only [incomingNodes?, named, Option.bind_eq_bind, Option.bind_some, targets, List.filter_map, List.filter_filter]
  congr 2
  refine List.filter_congr fun pod _ => ?_
  rw [Bool.and_comm]
  rfl

theorem recordsOf_placed {g : Generation} {named : List String} (records : List Evacuation)
    (place : c.placed = .ok ns) (found : g.pods.mapM (fun pod => c.nodeOf pod.name) = .ok named) :
    (records.filter fun e => named.contains e.node) = c.recordsOf ns g records := by
  rw [nodesOf_placed place] at found
  cases found
  apply List.filter_congr
  intro e _
  rw [List.contains_eq_any_beq, List.any_map]
  rfl

theorem targets_nodup (named : (incoming.pods.map (·.name)).Nodup) : (c.targets ns incoming nodes).Nodup := by
  have ready : ((incoming.pods.filter fun pod =>
      pod.ready && nodes.any fun n => n.isRunning && n.name == c.nodeIn ns pod.name).map (·.name)).Nodup :=
    named.sublist (List.filter_sublist.map _)
  have hosts := ready.map (f := c.nodeIn ns) fun _ _ => nodeIn_inj
  rwa [List.map_map] at hosts

theorem pod_of_target {node : String} (member : node ∈ c.targets ns incoming nodes) :
    ∃ pod ∈ incoming.pods, c.nodeIn ns pod.name = node := by
  obtain ⟨pod, kept, same⟩ := List.mem_map.mp member
  exact ⟨pod, (List.mem_filter.mp kept).1, same⟩

/-! ### What a pass knows when it comes to the evacuation -/

def ListsNodes (log : List Exchange) (nodes : List ClusterNode) : Prop :=
  ∃ peer port credentials response document,
    ⟨.send peer port credentials .nodes, .ok response⟩ ∈ log ∧
    response.payload ManagementRequest.nodes.path = .ok document ∧
    Response.decode ManagementRequest.nodes.path (Json.list? ClusterNode.ofReport?) document = .ok nodes

theorem generationStep_listsPods (ends : (c.generationStep p).Ends log (.ok next)) :
    ∃ ns sets pods, c.placed = .ok ns ∧ ⟨.listPods ns c.selector, .ok pods⟩ ∈ log ∧
      next.generations = Generation.collect sets pods ∧ next.link = p.link := by
  have collecting : ∀ {ns name : String} {sets : List StatefulSet} {rest : List Exchange}, Ends (do
      let pods ← Pass.api (← Attempt.call (.listPods ns c.selector))
      return { p with generations := Generation.collect sets pods, update := some name }) rest (.ok next) →
      ∃ pods, ⟨.listPods ns c.selector, .ok pods⟩ ∈ rest ∧
        next = { p with generations := Generation.collect sets pods, update := some name } := by
    intro ns name sets rest lists
    obtain ⟨reply, more, rfl, shown⟩ := ends_call_bind.mp lists
    obtain ⟨pods, answered, done⟩ := ends_ofExcept_bind_ok shown
    cases answered
    cases (ends_pure.mp done).2
    exact ⟨pods, List.mem_cons_self, rfl⟩
  unfold generationStep at ends
  obtain ⟨ns, place, placed⟩ := ends_ofExcept_bind_ok ends
  obtain ⟨template, -, made⟩ := ends_ofExcept_bind_ok placed
  obtain ⟨reply, others, rfl, listed⟩ := ends_call_bind.mp made
  obtain ⟨sets, -, shown⟩ := ends_ofExcept_bind_ok listed
  obtain ⟨resolved, -, goes⟩ := ends_ofExcept_bind_ok shown
  cases resolved with
  | adopt name hash =>
      obtain ⟨written, first, rest, rfl, -, follows⟩ := ends_bind_ok goes
      obtain ⟨pods, member, rfl⟩ := collecting follows
      exact ⟨ns, _, pods, place, List.mem_cons_of_mem _ (List.mem_append_right _ member), rfl, rfl⟩
  | create name hash =>
      obtain ⟨manifest, -, stamped⟩ := ends_ofExcept_bind_ok goes
      obtain ⟨written, first, rest, rfl, -, follows⟩ := ends_bind_ok stamped
      obtain ⟨pods, member, rfl⟩ := collecting (ends_pure_bind.mp follows)
      exact ⟨ns, _, pods, place, List.mem_cons_of_mem _ (List.mem_append_right _ member), rfl, rfl⟩

theorem nodeStep_lists (ends : (c.nodeStep pace p).Ends log (.ok next)) :
    next.generations = p.generations ∧ (next.link = p.link ∨ ListsNodes log next.status.nodes) := by
  unfold nodeStep at ends
  split at ends
  · cases (ends_pure.mp ends).2
    exact ⟨rfl, .inl rfl⟩
  · obtain ⟨client, first, rest, rfl, -, ends⟩ := ends_bind_ok ends
    obtain ⟨endpoint, -, ends⟩ := ends_ofExcept_bind_ok ends
    obtain ⟨nodes, asked, more, rfl, came, ends⟩ := ends_bind_ok ends
    cases (ends_pure.mp ends).2
    refine ⟨rfl, .inr ?_⟩
    obtain ⟨result, ask, same⟩ := ends_mapFailure.mp came
    rcases ManagementClient.ask_ends ask with ⟨-, e, rfl⟩ | ⟨reply, rfl, good⟩
    · cases same
    · obtain ⟨response, document, rfl, payload, decoded⟩ := good nodes (mapError_eq_ok.mp same.symm)
      exact ⟨endpoint, client.port, client.credentials, response, document, by simp, payload, decoded⟩

theorem ListsNodes.mono {log' : List Exchange} (lists : ListsNodes log nodes) (sub : ∀ x ∈ log, x ∈ log') :
    ListsNodes log' nodes := by
  obtain ⟨peer, port, credentials, response, document, member, reads⟩ := lists
  exact ⟨peer, port, credentials, response, document, sub _ member, reads⟩

theorem knowledge_at_evacuation (arrives : c.Reaches pace beforeEvacuation (.start s) before p) :
    ∃ ns sets pods, c.placed = .ok ns ∧ ⟨.listPods ns c.selector, .ok pods⟩ ∈ before ∧
      p.generations = Generation.collect sets pods ∧ (∀ link, p.link = some link → ListsNodes before p.status.nodes) := by
  obtain ⟨booted, atBoot, _, rfl, taken, going, afterBoot⟩ := Reaches.uncons arrives
  obtain ⟨stamped, atStamping, _, rfl, stamps, -, afterStamping⟩ := Reaches.uncons afterBoot
  obtain ⟨asked, atAsking, _, rfl, asks, -, afterAsking⟩ := Reaches.uncons afterStamping
  obtain ⟨stated, atState, _, rfl, states, -, arrived⟩ := Reaches.uncons afterAsking
  obtain ⟨-, same⟩ := runSteps_nil.mp arrived.1
  cases same
  have unlinked : booted.link = none := by
    rcases (bootstrapStep_gives _ _ taken).2 with rfl | ⟨halted, -⟩
    · rfl
    · rw [going] at halted
      cases halted
  obtain ⟨ns, sets, pods, place, listed, collected, link⟩ := generationStep_listsPods stamps
  obtain ⟨sameGenerations, nodes⟩ := nodeStep_lists asks
  obtain ⟨now, status, kept, -, keptLink, -⟩ := stateStep_gives _ _ states
  have keptNodes : p.status.nodes = asked.status.nodes := by
    rw [status]
    exact ClusterStatus.advance_nodes
  refine ⟨ns, sets, pods, place, by simp [listed], ?_, ?_⟩
  · rw [kept, sameGenerations, collected]
  · intro known linked
    rw [keptLink] at linked
    rw [keptNodes]
    rcases nodes with unasked | lists
    · rw [unasked, link, unlinked] at linked
      cases linked
    · apply lists.mono
      intro x member
      simp [member]

/-! ### The decision -/

def lastNode (c : Cluster) (ns : String) (g : Generation) : String :=
  c.nodeIn ns (g.name ++ "-" ++ toString (g.replicas - 1).toInt)

/-- What an evacuation that is due goes by, and what it does then. -/
structure Decision (c : Cluster) (pace : Pace) (p : ClusterPass) (ns : String) (log : List Exchange)
    (r : Except Failure ClusterPass) where
  update : BlueGreenUpdate
  recorded : p.status.blueGreenUpdate = some update
  now : Instant
  elapsed : BlueGreenUpdate.delayRemaining? update.startedAt c.spec.updateStrategy.initialDelaySeconds now = none
  link : ManagementLink
  linked : p.link = some link
  origin : Generation
  outgoing : Generation.find? update.originGeneration p.generations = some origin
  live : 0 < origin.replicas
  asked : List Exchange
  report : LoadReport
  reported : (Pass.management (link.client.loadReport link.endpoint)).Ends asked (.ok report)
  targets : List String
  known : c.incomingNodes? (Generation.find? update.currentGeneration p.generations) p.status.nodes = some targets
  moved : List Exchange
  shown : log = ⟨.clock, now⟩ :: (asked ++ moved)
  acts :
    let records := c.recordsOf ns origin report.evacuations
    Ends (do
      let next ← c.evacuate ns (c.lastNode ns origin) link origin
        (EvacuationPlan.choose (c.lastNode ns origin) origin.replicas records targets)
        { p with status := p.status.apply (.evacuations records) }
      return next.ask (.retryAfter pace.retry)) moved r

theorem evacuationStep_decides (place : c.placed = .ok ns) (ends : (c.evacuationStep pace p).Ends log r) :
    (Quiet log ∧ ∀ next report, r = .ok next → ¬ Reports log report) ∨ Nonempty (c.Decision pace p ns log r) := by
  rcases evacuationStep_cases ends with
    looked | ⟨update, now, link, origin, lastPod, rest, recorded, elapsed, linked, outgoing, last, rfl, due⟩
  · have past : Past 0 log := by
      rcases looked with rfl | ⟨now, rfl⟩
      · exact past_nil
      · exact past_call rfl
    have quiet : Quiet log := by
      rcases looked with rfl | ⟨now, rfl⟩
      · exact quiet_nil
      · exact quiet_cons (fun h => h) quiet_nil
    exact .inl ⟨quiet, fun _ _ _ => past.unreported⟩
  · obtain ⟨live, rfl⟩ := Generation.lastReplica?_spec last
    rcases evacuateFrom_cases due with
      ⟨quiet, e, rfl⟩ | ⟨named, report, asked, moved, targets, target, ns', found, came, known, aim, place', rfl, acts⟩
    · exact .inl ⟨quiet_cons (fun h => h) quiet, fun _ _ ok => nomatch ok⟩
    · cases place.symm.trans place'
      cases aim.symm.trans (nodeOf_placed place _)
      rw [recordsOf_placed report.evacuations place found] at acts
      exact .inr ⟨⟨update, recorded, now, elapsed, link, linked, origin, outgoing, live, asked, report, came, targets,
        known, moved, rfl, acts⟩⟩

theorem evacuate_past {target : String} {link : ManagementLink} {outgoing : Generation} {plan : EvacuationPlan}
    (ends : (c.evacuate ns target link outgoing plan p).Ends log r) : Past 0 log := by
  apply past_of_asks (evacuate_asks ..) ends
  · intro replicas turn same
    cases same
  · intro node order turn same
    cases same
  · intro event turn same
    cases same

namespace Decision

variable {report : LoadReport}

theorem acted (d : c.Decision pace p ns log r) :
    ∃ result, (c.evacuate ns (c.lastNode ns d.origin) d.link d.origin
      (EvacuationPlan.choose (c.lastNode ns d.origin) d.origin.replicas
        (c.recordsOf ns d.origin d.report.evacuations) d.targets)
      { p with status := p.status.apply (.evacuations (c.recordsOf ns d.origin d.report.evacuations)) }).Ends
        d.moved result :=
  evacuate_ends_of_bind d.acts

theorem mem_iff (d : c.Decision pace p ns log r) {x : Exchange} :
    x ∈ log ↔ x = ⟨.clock, d.now⟩ ∨ x ∈ d.asked ∨ x ∈ d.moved := by
  have shown := congrArg (x ∈ ·) d.shown
  simpa using shown

theorem reports_iff (d : c.Decision pace p ns log r) : Reports log report ↔ report = d.report := by
  constructor
  · intro reported
    rw [d.shown] at reported
    have looked : Past 0 [⟨.clock, d.now⟩] := past_call rfl
    have split : Reports ([⟨.clock, d.now⟩] ++ (d.asked ++ d.moved)) report := reported
    have asked := split.of_append.resolve_left looked.unreported
    obtain ⟨result, acted⟩ := d.acted
    have came := asked.of_append.resolve_right (evacuate_past acted).unreported
    cases Job.loadReport_reads d.reported came
    rfl
  · intro same
    subst same
    obtain ⟨response, document, member, reads⟩ := (Pass.loadReport_ends d.reported).2 d.report rfl
    exact ⟨_, _, _, response, document, d.mem_iff.mpr (.inr (.inl member)), reads⟩

theorem start (d : c.Decision pace p ns log r) {peer : Endpoint} {port : Nat} {credentials : Credentials} {node : String}
    {order : EvacuationOrder} {reply : Except TransportFailure Response}
    (started : ⟨.send peer port credentials (.startEvacuation node order), reply⟩ ∈ log) :
    node = c.lastNode ns d.origin ∧
    order = .ofStrategy c.spec.updateStrategy.evacuationStrategy d.targets ∧ d.targets ≠ [] ∧
    ∀ e ∈ c.recordsOf ns d.origin d.report.evacuations, e.node ≠ node := by
  have quiet : Quiet d.asked := (Pass.loadReport_ends d.reported).1
  have moved : ⟨.send peer port credentials (.startEvacuation node order), reply⟩ ∈ d.moved := by
    rcases d.mem_iff.mp started with same | early | late
    · cases same
    · exact absurd trivial (quiet _ early)
    · exact late
  obtain ⟨result, acted⟩ := d.acted
  rcases evacuate_ends acted with
    still | ⟨n, sized, rest, -, said, shown⟩ | ⟨target, migrateTo, sent, rest, plan, said, shown⟩
  · exact absurd trivial (still _ moved)
  · rw [shown] at moved
    rcases List.mem_cons.mp moved with same | later
    · cases congrArg Exchange.call same
    · exact absurd trivial (said _ later)
  · rw [shown] at moved
    rcases List.mem_cons.mp moved with same | later
    · cases congrArg Exchange.call same
      obtain ⟨rfl, rfl, possible, unrecorded⟩ := EvacuationPlan.choose_start plan
      exact ⟨rfl, rfl, possible, unrecorded⟩
    · exact absurd trivial (said _ later)

theorem notes (d : c.Decision pace p ns log (.ok next)) :
    next.status = p.status.apply (.evacuations (c.recordsOf ns d.origin d.report.evacuations)) := by
  obtain ⟨moved, first, rest, -, came, done⟩ := ends_bind_ok d.acts
  have kept : moved.status = _ := evacuate_gives _ _ came
  cases (ends_pure.mp done).2
  exact kept

end Decision

/-! ### Moves -/

/-- No two of the exchanges are moves. -/
def MovesOnce (log : List Exchange) : Prop :=
  log.Pairwise fun x y => ¬ (x.call.IsMove ∧ y.call.IsMove)

theorem movesOnce_of_quiet (quiet : Quiet log) : MovesOnce log := by
  apply List.Pairwise.imp_of_mem _ (List.pairwise_of_forall fun _ _ => trivial)
  intro x y member _ _ both
  exact quiet x member both.1

theorem movesOnce_between {asked rest : List Exchange} {x : Exchange} (quiet : Quiet asked) (still : Quiet rest) :
    MovesOnce (asked ++ x :: rest) := by
  apply List.pairwise_append.mpr
  refine ⟨movesOnce_of_quiet quiet, List.pairwise_cons.mpr ⟨?_, movesOnce_of_quiet still⟩, ?_⟩
  · intro y member both
    exact still y member both.2
  · intro y member z _ both
    exact quiet y member both.1

theorem evacuationStep_movesOnce (ends : (c.evacuationStep pace p).Ends log r) : MovesOnce log := by
  rcases evacuationStep_ends ends with quiet | moves
  · exact movesOnce_of_quiet quiet
  · cases moves with
    | shrink grounds record listed same drained place reply quiet still => exact movesOnce_between quiet still
    | evacuate grounds order reply quiet still => exact movesOnce_between quiet still

/-- What an order to evacuate a node goes by: the generations and the nodes as they were listed before in the same
pass, the clock, and the report that the evacuation asked for. -/
structure Aims (c : Cluster) (p : ClusterPass) (before log : List Exchange) (ns : String) (u : BlueGreenUpdate)
    (origin current : Generation) (node : String) (targets : List String) : Prop where
  place : c.placed = .ok ns
  recorded : p.status.blueGreenUpdate = some u
  collected : ∃ sets pods, ⟨.listPods ns c.selector, .ok pods⟩ ∈ before ∧ p.generations = Generation.collect sets pods
  listed : ListsNodes before p.status.nodes
  outgoing : Generation.find? u.originGeneration p.generations = some origin
  incoming : Generation.find? u.currentGeneration p.generations = some current
  live : 0 < origin.replicas
  last : node = c.nodeIn ns (origin.name ++ "-" ++ toString (origin.replicas - 1).toInt)
  elapsed : ∃ now, ⟨.clock, now⟩ ∈ log ∧ ∀ started, Rfc3339.parse? u.startedAt = some started →
    (started.add (.ofSeconds (max c.spec.updateStrategy.initialDelaySeconds.toInt 0).toNat)).nanosSince now ≤ 0
  reported : ∃ report, Reports log report
  unrecorded : (∃ pod ∈ origin.pods, c.nodeIn ns pod.name = node) →
    ∀ report, Reports log report → ∀ e ∈ report.evacuations, e.node ≠ node
  aimed : targets = c.targets ns current p.status.nodes
  possible : targets ≠ []
  distinct : targets.Nodup
  apart : u.originGeneration ≠ u.currentGeneration → ∀ pod ∈ origin.pods, c.nodeIn ns pod.name ∉ targets

theorem Decision.aims (d : c.Decision pace p ns log r) (place : c.placed = .ok ns) {sets : List StatefulSet}
    {pods : List Pod} (listed : ⟨.listPods ns c.selector, .ok pods⟩ ∈ before)
    (collected : p.generations = Generation.collect sets pods) (apart : Pod.Apart pods)
    (known : ∀ link, p.link = some link → ListsNodes before p.status.nodes) (possible : d.targets ≠ [])
    (unrecorded : ∀ e ∈ c.recordsOf ns d.origin d.report.evacuations, e.node ≠ c.lastNode ns d.origin) :
    ∃ current, c.Aims p before log ns d.update d.origin current (c.lastNode ns d.origin) d.targets := by
  have targets := d.known
  cases incoming : Generation.find? d.update.currentGeneration p.generations with
  | none =>
      rw [incoming] at targets
      exact absurd (Option.some.inj targets).symm possible
  | some current =>
      rw [incoming, incomingNodes?_placed place] at targets
      have aimed : d.targets = c.targets ns current p.status.nodes := (Option.some.inj targets).symm
      obtain ⟨fromOrigin, originName⟩ := Generation.find?_spec d.outgoing
      obtain ⟨fromCurrent, currentName⟩ := Generation.find?_spec incoming
      rw [collected] at fromOrigin fromCurrent
      refine ⟨current, place, d.recorded, ⟨sets, pods, listed, collected⟩, known d.link d.linked, d.outgoing, incoming,
        d.live, rfl, ⟨d.now, d.mem_iff.mpr (.inl rfl), ?_⟩, ⟨d.report, d.reports_iff.mpr rfl⟩, ?_, aimed, possible, ?_, ?_⟩
      · intro started read
        exact BlueGreenUpdate.delayRemaining?_none d.elapsed read
      · intro exists_pod report reported e member same
        obtain ⟨pod, among, named⟩ := exists_pod
        cases d.reports_iff.mp reported
        apply unrecorded e _ same
        apply List.mem_filter.mpr
        refine ⟨member, List.any_eq_true.mpr ⟨pod, among, ?_⟩⟩
        rw [named, same]
        exact beq_self_eq_true _
      · rw [aimed]
        exact targets_nodup (Generation.podNames_distinct apart.named fromCurrent)
      · intro differ pod among target
        rw [aimed] at target
        obtain ⟨other, amongOthers, same⟩ := pod_of_target target
        have shared := Generation.name_of_shared_pod apart fromOrigin fromCurrent among amongOthers (nodeIn_inj same.symm)
        exact differ (originName.symm.trans (shared.trans currentName))

theorem settled_after_evacuation {q : ClusterPass} {failure : Option (Step × Failure)} {now : Instant}
    (run : (c.runSteps pace [.readinessGates, .listeners] p).Yields log (q, failure)) :
    (c.settled q failure now).blueGreenUpdate = p.status.blueGreenUpdate := by
  have still : q = p := by
    apply runSteps_still _ run
    intro step member
    simp only [List.mem_cons, List.not_mem_nil, or_false] at member
    rcases member with rfl | rfl
    · exact gateStep_gives
    · exact listenerStep_gives
  rw [still]
  rfl

/-- An evacuation makes at most one move. If it orders a node to be evacuated, the order is aimed by what was listed and
reported in the same pass; and if it has read a report and succeeds, the status that the pass settles on has the records
of that report that are about the pods of the origin, in their order. -/
theorem evacuation_aims (arrives : c.Reaches pace beforeEvacuation (.start s) before p)
    (ends : (c.evacuationStep pace p).Ends log r)
    (apart : ∀ ns selector pods, ⟨.listPods ns selector, .ok pods⟩ ∈ before → Pod.Apart pods) :
    MovesOnce log ∧
    (∀ peer port credentials node order reply,
      ⟨.send peer port credentials (.startEvacuation node order), reply⟩ ∈ log →
      ∃ ns u origin current targets, order = .ofStrategy c.spec.updateStrategy.evacuationStrategy targets ∧
        c.Aims p before log ns u origin current node targets) ∧
    ∀ next report, r = .ok next → Reports log report →
      ∃ ns u origin, c.placed = .ok ns ∧ p.status.blueGreenUpdate = some u ∧
        Generation.find? u.originGeneration p.generations = some origin ∧
        ∀ later q failure now, (c.runSteps pace [.readinessGates, .listeners] next).Yields later (q, failure) →
          (c.settled q failure now).blueGreenUpdate =
            some { u with evacuations := c.recordsOf ns origin report.evacuations } := by
  obtain ⟨ns, sets, pods, place, listed, collected, known⟩ := knowledge_at_evacuation arrives
  refine ⟨evacuationStep_movesOnce ends, ?_⟩
  rcases evacuationStep_decides place ends with ⟨quiet, unreported⟩ | ⟨⟨d⟩⟩
  · refine ⟨?_, ?_⟩
    · intro peer port credentials node order reply started
      exact absurd trivial (quiet _ started)
    · intro next report ok reported
      exact absurd reported (unreported next report ok)
  · refine ⟨?_, ?_⟩
    · intro peer port credentials node order reply started
      obtain ⟨rfl, rfl, possible, unrecorded⟩ := d.start started
      obtain ⟨current, aims⟩ := d.aims place listed collected (apart _ _ _ listed) known possible unrecorded
      exact ⟨ns, d.update, d.origin, current, d.targets, rfl, aims⟩
    · intro next report ok reported
      subst ok
      cases d.reports_iff.mp reported
      refine ⟨ns, d.update, d.origin, place, d.recorded, d.outgoing, ?_⟩
      intro later q failure now run
      rw [settled_after_evacuation run, d.notes]
      show p.status.blueGreenUpdate.map _ = _
      rw [d.recorded]
      rfl

end Cluster

/-! ### An order over the sample -/

def successorNode : String := "broker@broker-second-0.broker-headless.default.svc.cluster.local"

def successorListing : Response where
  status := 200
  body := Text.Utf8.encode ("[\x7b\"node\":\"" ++ successorNode ++ "\",\"node_status\":\"running\"\x7d]")

def successorReport : Response where
  status := 200
  body := Text.Utf8.encode
    ("\x7b\"evacuations\":[\x7b\"node\":\"" ++ successorNode ++ "\",\"state\":\"prohibiting\"\x7d]\x7d")

def successorRunning : ClusterNode := ⟨successorNode, "running", "", "", none, none⟩

def successorRecord : Evacuation := { drainedNode with node := successorNode }

theorem successorListing_reads : successorListing.document?.bind Response.refusal? = none ∧
    Json.list? ClusterNode.ofReport? (successorListing.document?.getD .null) = some [successorRunning] := by
  decide +kernel

theorem successorReport_reads : successorReport.document?.bind Response.refusal? = none ∧
    LoadReport.ofReport? (successorReport.document?.getD .null) = some ⟨[successorRecord], []⟩ := by
  decide +kernel

theorem samplePods_apart : Pod.Apart (samplePods true true) where
  named := by decide
  owned := by
    intro pod member a ha b hb _ _
    have alone : ∀ pod ∈ samplePods true true, pod.owners.length ≤ 1 := by decide
    have owners := alone pod member
    match found : pod.owners with
    | [] =>
        rw [found] at ha
        cases ha
    | [owner] =>
        rw [found] at ha hb
        rw [List.mem_singleton.mp ha, List.mem_singleton.mp hb]
    | _ :: _ :: _ =>
        rw [found] at owners
        simp at owners

def movingStatus : ClusterStatus :=
  { ClusterStatus.initial with
    currentState := .blueGreenUpdating
    blueGreenUpdate := some sampleUpdate }

def movingCluster : Cluster :=
  sampleCluster "broker:2" movingStatus

def movingBefore : List Exchange :=
  movingCluster.foundResources "default" ++
    ([⟨.listSets "default" movingCluster.selector, .ok [secondSet, firstSet]⟩,
      ⟨.listPods "default" movingCluster.selector, .ok (samplePods true true)⟩] ++
    ([⟨.getSecret "default" movingCluster.secretName, .ok sampleSecret⟩,
      ⟨.send (sampleLink movingCluster "broker-second-0").endpoint movingCluster.dashboardPort ⟨"user", "key"⟩ .nodes,
        .ok successorListing⟩] ++ ([⟨.clock, sampleTime 2⟩] ++ [])))

def movingListed : ClusterStatus :=
  { movingStatus with nodes := [successorRunning] }

def movingSight : Observation :=
  movingCluster.observe true [successorRunning] (sampleGenerations true true) (some "broker-second")

def movingArrival : ClusterPass where
  status := (movingListed.advance movingSight (sampleTime 2)).1
  generations := sampleGenerations true true
  update := some "broker-second"
  link := some (sampleLink movingCluster "broker-second-0")
  initReady := true
  requeue := .steady
  halted := false

theorem movingBefore_apart {ns selector : String} {pods : List Pod}
    (listed : ⟨.listPods ns selector, .ok pods⟩ ∈ movingBefore) : Pod.Apart pods := by
  have shown : (⟨.listPods ns selector, .ok pods⟩ : Exchange) =
      ⟨.listPods "default" movingCluster.selector, .ok (samplePods true true)⟩ := by
    simp only [movingBefore, Cluster.foundResources, List.cons_append, List.nil_append, List.mem_cons, List.not_mem_nil,
      or_false] at listed
    rcases listed with h | h | h | h | h | h | h | h | h | h | h
    all_goals first | exact h | cases congrArg Exchange.call h
  cases shown
  exact samplePods_apart

theorem movingSight_advance : movingListed.advance movingSight (sampleTime 2) =
    ((movingListed.recorded movingSight (sampleTime 2)).continueUpdate movingSight (sampleTime 2), .continue) := by
  have left : movingListed.currentState ≠ .empty := by decide
  have several : 1 < movingSight.liveGenerations := by
    show 1 < (Generation.live (sampleGenerations true true)).length
    rw [show (Generation.live (sampleGenerations true true)).length = 2 from rfl]
    decide
  exact ClusterStatus.advance_of_several left rfl several rfl

theorem moving_reaches :
    movingCluster.Reaches default Cluster.beforeEvacuation (.start movingStatus) movingBefore movingArrival := by
  have place : movingCluster.placed = .ok "default" := rfl
  have left : movingStatus.currentState ≠ .empty := by decide
  have collected : Generation.collect [secondSet, firstSet] (samplePods true true) = sampleGenerations true true :=
    collect_sample (.inr rfl)
  have payload : successorListing.payload ManagementRequest.nodes.path = .ok successorListing.document? :=
    Response.payload_of_document successorListing_reads.1 rfl
  have decoded : Response.decode ManagementRequest.nodes.path (Json.list? ClusterNode.ofReport?)
      successorListing.document? = .ok [successorRunning] := Response.decode_of_read successorListing_reads.2
  have booted := Cluster.bootstrapStep_succeeds default (p := .start movingStatus) left place
  have resolved : movingCluster.resolveGeneration (sampleTemplate "broker:2" movingStatus)
      (Cluster.existingOf [secondSet, firstSet]) = .ok (.adopt "broker-second" (sampleHash "broker:2")) :=
    sample_resolves rfl
  have stamped := Cluster.generationStep_succeeds (p := { ClusterPass.start movingStatus with initReady := true }) place
    sample_desired resolved rfl (samplePods true true)
  rw [collected] at stamped
  have asked := Cluster.nodeStep_succeeds default (p := { ClusterPass.start movingStatus with
    initReady := true
    generations := sampleGenerations true true
    update := some "broker-second" }) place rfl credentialsOf_sample payload decoded
  have stated := Cluster.stateStep_silent (p := { movingArrival with status := movingListed }) default
    (Prod.ext rfl (congrArg Prod.snd movingSight_advance)) nofun
  exact Cluster.reaches_cons .initResources booted rfl (Cluster.reaches_cons .generations stamped rfl
    (Cluster.reaches_cons .nodes asked rfl (Cluster.reaches_cons .stateMachine stated rfl (Cluster.reaches_nil rfl))))

def successorOrder : EvacuationOrder :=
  .ofStrategy movingCluster.spec.updateStrategy.evacuationStrategy [successorNode]

def movingLog : List Exchange :=
  let link := sampleLink movingCluster "broker-second-0"
  [⟨.clock, sampleTime 2⟩,
    ⟨.send link.endpoint link.client.port link.client.credentials .loadStatus, .ok successorReport⟩,
    ⟨.send link.endpoint link.client.port link.client.credentials (.startEvacuation sampleNode successorOrder),
      .ok ⟨200, []⟩⟩,
    ⟨.tell ⟨.normal, "EvacuationStarted", "Evacuating clients from " ++ sampleNode⟩, ()⟩]

theorem moving_chooses : movingArrival.status.blueGreenUpdate = some sampleUpdate := by
  have chosen : movingListed.chooseUpdate movingSight (sampleTime 2) = some sampleUpdate := by
    apply ClusterStatus.chooseUpdate_kept rfl
    intro update origin _ named outgoing
    cases named
    cases outgoing
    exact ⟨rfl, rfl⟩
  unfold movingArrival
  dsimp only
  rw [movingSight_advance]
  exact chosen

theorem moving_evacuates : (movingCluster.evacuationStep default movingArrival).Ends movingLog
    (.ok (({ movingArrival with status := movingArrival.status.apply (.evacuations []) } : ClusterPass).ask
      (.retryAfter (default : Pace).retry))) := by
  have place : movingCluster.placed = .ok "default" := rfl
  have elapsed : BlueGreenUpdate.delayRemaining? sampleUpdate.startedAt 0 (sampleTime 2) = none := by
    decide +kernel
  have payload : successorReport.payload ManagementRequest.loadStatus.path = .ok successorReport.document? :=
    Response.payload_of_document successorReport_reads.1 rfl
  have decoded : Response.decode ManagementRequest.loadStatus.path LoadReport.ofReport?
      successorReport.document? = .ok ⟨[successorRecord], []⟩ := Response.decode_of_read successorReport_reads.2
  have found : Generation.find? sampleUpdate.originGeneration (sampleGenerations true true) =
      some (sampleGeneration "broker-first" "broker:1" 100 true) := rfl
  have named : (sampleGeneration "broker-first" "broker:1" 100 true).pods.mapM
      (fun pod => movingCluster.nodeOf pod.name) = .ok [sampleNode] := rfl
  have listed : movingArrival.status.nodes = [successorRunning] := ClusterStatus.advance_nodes
  have known : movingCluster.incomingNodes? (Generation.find? sampleUpdate.currentGeneration (sampleGenerations true true))
      movingArrival.status.nodes = some [successorNode] := by
    rw [listed]
    decide +kernel
  have others : ([successorRecord].filter fun e => [sampleNode].contains e.node) = [] := by decide +kernel
  have sendable : Net.Target.pathFault? (ManagementRequest.startEvacuation sampleNode successorOrder).path = none := by
    decide +kernel
  apply Cluster.evacuationStep_acts place moving_chooses rfl elapsed rfl found (lastReplica?_sample true) rfl named known
    payload decoded
  dsimp only
  rw [others]
  exact Cluster.evacuate_start sendable (Response.payload_of_document rfl rfl)

/-- While clients move, the sample has its origin's node evacuated to the node of the replica that is ready and runs; the
record of another node does not come to stand in its status. -/
theorem moving_aims : ∃ (c : Cluster) (before log : List Exchange) (p next : ClusterPass) (order : EvacuationOrder),
    c.Reaches default Cluster.beforeEvacuation (.start (c.status.getD .initial)) before p ∧
    (c.evacuationStep default p).Ends log (.ok next) ∧
    (∀ ns selector pods, ⟨.listPods ns selector, .ok pods⟩ ∈ before → Pod.Apart pods) ∧
    (∃ peer port credentials reply,
      ⟨.send peer port credentials (.startEvacuation sampleNode order), reply⟩ ∈ log) ∧
    order.migrateTo = [successorNode] ∧ Reports log ⟨[successorRecord], []⟩ ∧
    Cluster.MovesOnce log ∧ (∃ ns u origin current targets,
      order = .ofStrategy c.spec.updateStrategy.evacuationStrategy targets ∧
      c.Aims p before log ns u origin current sampleNode targets) ∧
    ∃ ns u origin, c.placed = .ok ns ∧ p.status.blueGreenUpdate = some u ∧
      Generation.find? u.originGeneration p.generations = some origin ∧
      ∀ later q failure now, (c.runSteps default [.readinessGates, .listeners] next).Yields later (q, failure) →
        (c.settled q failure now).blueGreenUpdate =
          some { u with evacuations := c.recordsOf ns origin [successorRecord] } := by
  have apart : ∀ ns selector pods, ⟨.listPods ns selector, .ok pods⟩ ∈ movingBefore → Pod.Apart pods :=
    fun _ _ _ listed => movingBefore_apart listed
  have started : ∃ peer port credentials reply,
      ⟨.send peer port credentials (.startEvacuation sampleNode successorOrder), reply⟩ ∈ movingLog :=
    ⟨_, _, _, _, List.mem_cons_of_mem _ (List.mem_cons_of_mem _ List.mem_cons_self)⟩
  have reported : Reports movingLog ⟨[successorRecord], []⟩ :=
    ⟨_, _, _, successorReport, _, List.mem_cons_of_mem _ List.mem_cons_self,
      Response.payload_of_document successorReport_reads.1 rfl, Response.decode_of_read successorReport_reads.2⟩
  obtain ⟨once, aims, notes⟩ := Cluster.evacuation_aims moving_reaches moving_evacuates apart
  obtain ⟨peer, port, credentials, reply, ordered⟩ := started
  exact ⟨movingCluster, movingBefore, movingLog, movingArrival, _, successorOrder, moving_reaches, moving_evacuates, apart,
    ⟨peer, port, credentials, reply, ordered⟩, rfl, reported, once, aims _ _ _ _ _ _ ordered, notes _ _ rfl reported⟩

end BrokerFleet
