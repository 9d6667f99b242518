import BrokerFleet.Proofs.Generations
import BrokerFleet.Proofs.Pass.Vocabulary

/-!
What the evacuation step does and on which grounds. It asks first; then it makes at most one move, which
shrinks the outgoing generation by its last replica or starts to evacuate the node of that replica.
-/

namespace BrokerFleet

open Kubernetes Attempt

namespace ManagementClient

variable {client : ManagementClient} {peer : Endpoint} {request : ManagementRequest}
  {log : List Exchange}

theorem document_ends {r : Except ManagementFailure (Option Json)}
    (h : (client.document peer request).Ends log r) :
    (log = [] ∧ ∃ e, r = .error e) ∨
      ∃ reply, log = [⟨.send peer client.port client.credentials request, reply⟩] ∧
        ∀ document, r = .ok document →
          ∃ response, reply = .ok response ∧ response.payload request.path = .ok document := by
  unfold document send at h
  split at h
  · rcases ends_bind.mp h with ⟨e, failed, rfl⟩ | ⟨x, first, rest, rfl, failed, -⟩
    · exact .inl ⟨(ends_fail.mp failed).1, e, rfl⟩
    · cases (ends_fail.mp failed).2
  · refine .inr ?_
    have sent : ∀ {first : List Exchange} {result : Except ManagementFailure Response},
        Ends (do
          let reply ← Attempt.call (.send peer client.port client.credentials request)
          Attempt.ofExcept .transport reply) first result →
        ∃ reply, first = [⟨.send peer client.port client.credentials request, reply⟩] ∧
          result = reply.mapError .transport := by
      intro first result asked
      obtain ⟨reply, rest, rfl, answered⟩ := ends_call_bind.mp asked
      obtain ⟨rfl, rfl⟩ := ends_ofExcept.mp answered
      exact ⟨reply, rfl, rfl⟩
    rcases ends_bind.mp h with ⟨e, failed, rfl⟩ | ⟨response, first, rest, rfl, came, read⟩
    · obtain ⟨reply, rfl, -⟩ := sent failed
      exact ⟨reply, rfl, fun _ ok => nomatch ok⟩
    · obtain ⟨reply, rfl, result⟩ := sent came
      obtain ⟨rfl, rfl⟩ := ends_ofExcept.mp read
      exact ⟨reply, rfl, fun document ok =>
        ⟨response, mapError_eq_ok.mp result.symm, mapError_eq_ok.mp ok⟩⟩

theorem ask_ends {α : Type} {read? : Json → Option α} {r : Except ManagementFailure α}
    (h : (client.ask peer request read?).Ends log r) :
    (log = [] ∧ ∃ e, r = .error e) ∨
      ∃ reply, log = [⟨.send peer client.port client.credentials request, reply⟩] ∧
        ∀ a, r = .ok a → ∃ response document, reply = .ok response ∧
          response.payload request.path = .ok document ∧
          Response.decode request.path read? document = .ok a := by
  rcases ends_bind.mp h with ⟨e, failed, rfl⟩ | ⟨document, first, rest, rfl, came, read⟩
  · rcases document_ends failed with ⟨rfl, -⟩ | ⟨reply, rfl, -⟩
    · exact .inl ⟨rfl, e, rfl⟩
    · exact .inr ⟨reply, rfl, fun _ ok => nomatch ok⟩
  · obtain ⟨rfl, rfl⟩ := ends_ofExcept.mp read
    rcases document_ends came with ⟨-, e, failed⟩ | ⟨reply, rfl, good⟩
    · cases failed
    · obtain ⟨response, answered, payload⟩ := good document rfl
      exact .inr ⟨reply, rfl, fun a ok =>
        ⟨response, document, answered, payload, mapError_eq_ok.mp ok⟩⟩

theorem order_ends {r : Except ManagementFailure Unit} (h : (client.order peer request).Ends log r) :
    log = [] ∨ ∃ reply, log = [⟨.send peer client.port client.credentials request, reply⟩] := by
  have asked : ∀ {first : List Exchange} {result : Except ManagementFailure (Option Json)},
      (client.document peer request).Ends first result →
      first = [] ∨ ∃ reply, first = [⟨.send peer client.port client.credentials request, reply⟩] := by
    intro first result ends
    rcases document_ends ends with ⟨rfl, -⟩ | ⟨reply, rfl, -⟩
    · exact .inl rfl
    · exact .inr ⟨reply, rfl⟩
  rcases ends_bind.mp h with ⟨e, failed, -⟩ | ⟨document, first, rest, rfl, came, done⟩
  · exact asked failed
  · obtain ⟨rfl, -⟩ := ends_pure.mp done
    rw [List.append_nil]
    exact asked came

end ManagementClient

/-! ### Moves -/

theorem EvacuationPlan.choose_scaleDown {target : String} {replicas n : Int32} {records : List Evacuation}
    {incoming : List String} (h : choose target replicas records incoming = .scaleDown n) :
    n = replicas - 1 ∧ ∃ record ∈ records, record.node = target ∧ record.isDrained = true := by
  unfold choose at h
  split at h
  · next record found =>
    split at h
    · next drained =>
      rw [Bool.and_eq_true] at drained
      cases h
      exact ⟨rfl, record, List.mem_of_find?_eq_some found, by simpa using List.find?_some found, drained.1⟩
    · cases h
  · split at h <;> cases h

theorem EvacuationPlan.choose_start {target node : String} {replicas : Int32} {records : List Evacuation}
    {incoming migrateTo : List String} (h : choose target replicas records incoming = .start node migrateTo) :
    node = target ∧ migrateTo = incoming ∧ incoming ≠ [] ∧ ∀ e ∈ records, e.node ≠ target := by
  unfold choose at h
  split at h
  · split at h <;> cases h
  · next unrecorded =>
    split at h
    · cases h
    · next possible =>
      cases h
      refine ⟨rfl, rfl, ?_, ?_⟩
      · intro none
        simp [none] at possible
      · intro e member same
        exact List.find?_eq_none.mp unrecorded e member (beq_iff_eq.mpr same)

theorem Pass.write_ends {ns : String} {w : Write} {log : List Exchange} {r : Except Failure w.Answer}
    (h : (Pass.write ns w).Ends log r) :
    ∃ reply, log = [⟨.write ns w, reply⟩] ∧ ∀ answer, r = .ok answer → reply = .ok answer := by
  obtain ⟨reply, rest, rfl, answered⟩ := ends_call_bind.mp h
  obtain ⟨rfl, rfl⟩ := ends_ofExcept.mp answered
  exact ⟨reply, rfl, fun answer ok => mapError_eq_ok.mp ok⟩

theorem Pass.loadReport_ends {link : ManagementLink} {log : List Exchange} {r : Except Failure LoadReport}
    (h : (Pass.management (link.client.loadReport link.endpoint)).Ends log r) :
    Quiet log ∧ ∀ report, r = .ok report → ∃ response document,
      ⟨.send link.endpoint link.client.port link.client.credentials .loadStatus, .ok response⟩ ∈ log ∧
      response.payload ManagementRequest.loadStatus.path = .ok document ∧
      Response.decode ManagementRequest.loadStatus.path LoadReport.ofReport? document = .ok report := by
  obtain ⟨result, ask, rfl⟩ := ends_mapFailure.mp h
  rcases ManagementClient.ask_ends ask with ⟨rfl, e, rfl⟩ | ⟨reply, rfl, good⟩
  · exact ⟨quiet_nil, fun _ ok => nomatch ok⟩
  · refine ⟨quiet_cons (fun h => h) quiet_nil, fun report ok => ?_⟩
    obtain ⟨response, document, rfl, payload, decoded⟩ := good report (mapError_eq_ok.mp ok)
    exact ⟨response, document, List.mem_cons_self, payload, decoded⟩

namespace Cluster

/-- What the evacuation step goes by when it makes a move: the update that is recorded, whose delay is over,
its origin as the pass saw it, and the report that was asked for. -/
structure Grounds (c : Cluster) (p : ClusterPass) (asked : List Exchange) where
  update : BlueGreenUpdate
  recorded : p.status.blueGreenUpdate = some update
  now : Instant
  looked : ⟨.clock, now⟩ ∈ asked
  elapsed : BlueGreenUpdate.delayRemaining? update.startedAt c.spec.updateStrategy.initialDelaySeconds now = none
  outgoing : Generation
  found : Generation.find? update.originGeneration p.generations = some outgoing
  live : 0 < outgoing.replicas
  target : String
  last : c.nodeOf (outgoing.name ++ "-" ++ toString (outgoing.replicas - 1).toInt) = .ok target
  link : ManagementLink
  response : Response
  answered : ⟨.send link.endpoint link.client.port link.client.credentials .loadStatus, .ok response⟩ ∈ asked
  report : LoadReport
  reported : ∃ document, response.payload ManagementRequest.loadStatus.path = .ok document ∧
    Response.decode ManagementRequest.loadStatus.path LoadReport.ofReport? document = .ok report

variable {c : Cluster} {pace : Pace} {p : ClusterPass} {log : List Exchange}

theorem evacuate_ends {ns target : String} {link : ManagementLink} {outgoing : Generation}
    {plan : EvacuationPlan} {r : Except Failure ClusterPass}
    (h : (c.evacuate ns target link outgoing plan p).Ends log r) :
    Quiet log ∨
    (∃ n reply rest, plan = .scaleDown n ∧ Quiet rest ∧
      log = ⟨.write ns (.scaleGeneration outgoing.name n), reply⟩ :: rest) ∨
    ∃ node migrateTo reply rest, plan = .start node migrateTo ∧ Quiet rest ∧
      log = ⟨.send link.endpoint link.client.port link.client.credentials (.startEvacuation node
        (.ofStrategy c.spec.updateStrategy.evacuationStrategy migrateTo)), reply⟩ :: rest := by
  have told : ∀ {reason note : String} {next : ClusterPass} {rest : List Exchange}
      {r : Except Failure ClusterPass},
      Ends (do Attempt.tell .normal reason note; return next) rest r → Quiet rest := by
    intro reason note next rest r ends
    obtain ⟨more, rfl, done⟩ := ends_tell_bind.mp ends
    obtain ⟨rfl, -⟩ := ends_pure.mp done
    exact quiet_cons (fun h => h) quiet_nil
  cases plan with
  | scaleDown n =>
      refine .inr (.inl ?_)
      rcases ends_bind.mp h with ⟨e, failed, -⟩ | ⟨set, first, rest, rfl, came, follows⟩
      · obtain ⟨reply, rfl, -⟩ := Pass.write_ends failed
        exact ⟨n, reply, [], rfl, quiet_nil, rfl⟩
      · obtain ⟨reply, rfl, -⟩ := Pass.write_ends came
        exact ⟨n, reply, rest, rfl, told follows, rfl⟩
  | start node migrateTo =>
      rcases ends_bind.mp h with ⟨e, failed, -⟩ | ⟨done, first, rest, rfl, came, follows⟩
      · obtain ⟨result, ordered, -⟩ := ends_mapFailure.mp failed
        rcases ManagementClient.order_ends ordered with rfl | ⟨reply, rfl⟩
        · exact .inl quiet_nil
        · exact .inr (.inr ⟨node, migrateTo, reply, [], rfl, quiet_nil, rfl⟩)
      · obtain ⟨result, ordered, -⟩ := ends_mapFailure.mp came
        rcases ManagementClient.order_ends ordered with rfl | ⟨reply, rfl⟩
        · exact .inl (told follows)
        · exact .inr (.inr ⟨node, migrateTo, reply, rest, rfl, told follows, rfl⟩)
  | wait =>
      obtain ⟨rfl, -⟩ := ends_pure.mp h
      exact .inl quiet_nil

/-- The exchanges of an evacuation that makes a move: what it asks, the move and what it says then. -/
inductive Moves (c : Cluster) (p : ClusterPass) : List Exchange → Prop where
  | shrink {asked rest : List Exchange} (grounds : Grounds c p asked) (record : Evacuation)
      (listed : record ∈ grounds.report.evacuations) (same : record.node = grounds.target)
      (drained : record.isDrained = true) {ns : String} (place : c.placed = .ok ns)
      (reply : Except ApiError StatefulSet) (before : Quiet asked) (after : Quiet rest) :
      Moves c p (asked ++ ⟨.write ns (.scaleGeneration grounds.outgoing.name
        (grounds.outgoing.replicas - 1)), reply⟩ :: rest)
  | evacuate {asked rest : List Exchange} (grounds : Grounds c p asked) (order : EvacuationOrder)
      (reply : Except TransportFailure Response) (before : Quiet asked) (after : Quiet rest) :
      Moves c p (asked ++ ⟨.send grounds.link.endpoint grounds.link.client.port
        grounds.link.client.credentials (.startEvacuation grounds.target order), reply⟩ :: rest)

theorem evacuate_ends_of_bind {ns target : String} {link : ManagementLink} {outgoing : Generation}
    {plan : EvacuationPlan} {f : ClusterPass → ClusterPass} {r : Except Failure ClusterPass}
    (h : Ends (do let next ← c.evacuate ns target link outgoing plan p; return f next) log r) :
    ∃ result, (c.evacuate ns target link outgoing plan p).Ends log result := by
  rcases ends_bind.mp h with ⟨e, failed, -⟩ | ⟨next, first, rest, rfl, made, done⟩
  · exact ⟨_, failed⟩
  · obtain ⟨rfl, -⟩ := ends_pure.mp done
    rw [List.append_nil]
    exact ⟨_, made⟩

theorem moves_of_evacuate {asked : List Exchange} {next : ClusterPass} {ns : String} {nodes : List String}
    {incoming : List String} {r : Except Failure ClusterPass} (grounds : Grounds c p asked)
    (before : Quiet asked) (place : c.placed = .ok ns)
    (h : (c.evacuate ns grounds.target grounds.link grounds.outgoing
      (EvacuationPlan.choose grounds.target grounds.outgoing.replicas
        (grounds.report.evacuations.filter fun e => nodes.contains e.node) incoming) next).Ends log r) :
    Quiet log ∨ c.Moves p (asked ++ log) := by
  rcases evacuate_ends h with still | ⟨n, reply, rest, plan, after, rfl⟩ |
    ⟨node, migrateTo, reply, rest, plan, after, rfl⟩
  · exact .inl still
  · obtain ⟨rfl, record, listed, same, drained⟩ := EvacuationPlan.choose_scaleDown plan
    have member : record ∈ grounds.report.evacuations := (List.mem_filter.mp listed).1
    exact .inr (.shrink grounds record member same drained place reply before after)
  · obtain ⟨rfl, -⟩ := EvacuationPlan.choose_start plan
    exact .inr (.evacuate grounds _ reply before after)

theorem evacuateFrom_cases {update : BlueGreenUpdate} {link : ManagementLink} {outgoing : Generation}
    {lastPod : String} {r : Except Failure ClusterPass}
    (h : (c.evacuateFrom pace update link outgoing lastPod p).Ends log r) :
    (Quiet log ∧ ∃ e, r = .error e) ∨
    ∃ nodes report first rest incoming target ns,
      outgoing.pods.mapM (fun pod => c.nodeOf pod.name) = .ok nodes ∧
      (Pass.management (link.client.loadReport link.endpoint)).Ends first (.ok report) ∧
      c.incomingNodes? (Generation.find? update.currentGeneration p.generations) p.status.nodes = some incoming ∧
      c.nodeOf lastPod = .ok target ∧ c.placed = .ok ns ∧ log = first ++ rest ∧
      let records := report.evacuations.filter fun e => nodes.contains e.node
      let recorded := p.status.blueGreenUpdate.map fun u => { u with evacuations := records }
      Ends (do
        let next ← c.evacuate ns target link outgoing
          (EvacuationPlan.choose target outgoing.replicas records incoming)
          { p with status := { p.status with blueGreenUpdate := recorded } }
        return next.ask (.retryAfter pace.retry)) rest r := by
  unfold evacuateFrom at h
  rcases ends_ofExcept_bind.mp h with ⟨e, -, rfl, rfl⟩ | ⟨nodes, named, asked⟩
  · exact .inl ⟨quiet_nil, _, rfl⟩
  rcases ends_bind.mp asked with ⟨e, failed, rfl⟩ | ⟨report, first, rest, rfl, came, follows⟩
  · exact .inl ⟨(Pass.loadReport_ends failed).1, _, rfl⟩
  have quiet : Quiet first := (Pass.loadReport_ends came).1
  dsimp only at follows
  split at follows
  · next incoming known =>
    rcases ends_ofExcept_bind.mp (ends_pure_bind.mp follows) with ⟨e, -, rfl, rfl⟩ | ⟨target, aim, goes⟩
    · rw [List.append_nil]
      exact .inl ⟨quiet, _, rfl⟩
    rcases ends_ofExcept_bind.mp goes with ⟨e, -, rfl, rfl⟩ | ⟨ns, place, acts⟩
    · rw [List.append_nil]
      exact .inl ⟨quiet, _, rfl⟩
    exact .inr ⟨nodes, report, first, rest, incoming, target, ns, named, came, known, aim, place, rfl, acts⟩
  · obtain ⟨rfl, rfl⟩ := ends_fail_bind.mp follows
    rw [List.append_nil]
    exact .inl ⟨quiet, _, rfl⟩

theorem evacuateFrom_ends {update : BlueGreenUpdate} {link : ManagementLink} {outgoing : Generation}
    {lastPod : String} {now : Instant} {r : Except Failure ClusterPass}
    (recorded : p.status.blueGreenUpdate = some update)
    (elapsed : BlueGreenUpdate.delayRemaining? update.startedAt c.spec.updateStrategy.initialDelaySeconds now
      = none)
    (found : Generation.find? update.originGeneration p.generations = some outgoing)
    (last : outgoing.lastReplica? = some lastPod)
    (h : (c.evacuateFrom pace update link outgoing lastPod p).Ends log r) :
    Quiet log ∨ c.Moves p (⟨.clock, now⟩ :: log) := by
  rcases evacuateFrom_cases h with
    ⟨quiet, -⟩ | ⟨nodes, report, first, rest, incoming, target, ns, -, came, -, aim, place, rfl, acts⟩
  · exact .inl quiet
  · obtain ⟨before, good⟩ := Pass.loadReport_ends came
    obtain ⟨response, document, answered, payload, decoded⟩ := good report rfl
    obtain ⟨live, rfl⟩ := Generation.lastReplica?_spec last
    let grounds : Grounds c p (⟨.clock, now⟩ :: first) := {
      update, recorded, now, looked := List.mem_cons_self, elapsed, outgoing, found, live, target
      last := aim, link, response, answered := List.mem_cons_of_mem _ answered, report
      reported := ⟨document, payload, decoded⟩ }
    have quiet : Quiet (⟨.clock, now⟩ :: first) := quiet_cons (fun h => h) before
    obtain ⟨result, acted⟩ := evacuate_ends_of_bind acts
    rcases moves_of_evacuate grounds quiet place acted with still | moves
    · exact .inl (quiet_append before still)
    · exact .inr moves

theorem evacuationStep_cases {r : Except Failure ClusterPass} (h : (c.evacuationStep pace p).Ends log r) :
    (log = [] ∨ ∃ now, log = [⟨.clock, now⟩]) ∨
    ∃ update now link outgoing lastPod rest, p.status.blueGreenUpdate = some update ∧
      BlueGreenUpdate.delayRemaining? update.startedAt c.spec.updateStrategy.initialDelaySeconds now = none ∧
      p.link = some link ∧ Generation.find? update.originGeneration p.generations = some outgoing ∧
      outgoing.lastReplica? = some lastPod ∧ log = ⟨.clock, now⟩ :: rest ∧
      (c.evacuateFrom pace update link outgoing lastPod p).Ends rest r := by
  unfold evacuationStep at h
  split at h
  · exact .inl (.inl (ends_pure.mp h).1)
  · next update recorded =>
    split at h
    · exact .inl (.inl (ends_pure.mp h).1)
    · obtain ⟨now, rest, rfl, looked⟩ := ends_now_bind.mp h
      have still : ∀ {next : ClusterPass}, Ends (pure next : Pass ClusterPass) rest r →
          ∃ now', (⟨.clock, now⟩ :: rest : List Exchange) = [⟨.clock, now'⟩] := by
        intro next ends
        obtain ⟨rfl, -⟩ := ends_pure.mp ends
        exact ⟨now, rfl⟩
      split at looked
      · exact .inl (.inr (still looked))
      · next elapsed =>
        split at looked
        · exact .inl (.inr (still looked))
        · next link linked =>
          split at looked
          · exact .inl (.inr (still looked))
          · next outgoing found =>
            split at looked
            · exact .inl (.inr (still looked))
            · next lastPod last =>
              exact .inr ⟨update, now, link, outgoing, lastPod, rest, recorded, elapsed, linked, found, last, rfl,
                looked⟩

theorem evacuationStep_ends {r : Except Failure ClusterPass} (h : (c.evacuationStep pace p).Ends log r) :
    Quiet log ∨ c.Moves p log := by
  rcases evacuationStep_cases h with (rfl | ⟨now, rfl⟩) |
    ⟨update, now, link, outgoing, lastPod, rest, recorded, elapsed, -, found, last, rfl, goes⟩
  · exact .inl quiet_nil
  · exact .inl (quiet_cons (fun h => h) quiet_nil)
  · rcases evacuateFrom_ends recorded elapsed found last goes with quiet | moves
    · exact .inl (quiet_cons (fun h => h) quiet)
    · exact .inr moves

end Cluster

end BrokerFleet
