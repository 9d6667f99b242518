import BrokerFleet.Proofs.Lifecycle.Coherence
import BrokerFleet.Proofs.Pass.Course
import BrokerFleet.Proofs.Pass.Vocabulary

/-!
Passes that nothing stands in the way of. If the objects that generations need are there, the update
generation has the desired size and a replica answers, then a pass comes to the evacuation; and if the last
node of the origin is reported as drained then, the evacuation retires its replica.
-/

namespace BrokerFleet

open Kubernetes Attempt

theorem pathFault?_nodes : Net.Target.pathFault? ManagementRequest.nodes.path = none := by
  decide +kernel

theorem pathFault?_loadStatus : Net.Target.pathFault? ManagementRequest.loadStatus.path = none := by
  decide +kernel

namespace ManagementClient

variable (client : ManagementClient) (peer : Endpoint) {request : ManagementRequest} {response : Response}
  {document : Option Json}

theorem document_sent (response : Response) (sendable : Net.Target.pathFault? request.path = none) :
    (client.document peer request).Ends
      [⟨.send peer client.port client.credentials request, .ok response⟩] (response.payload request.path) := by
  have sent : (client.send peer request).Ends
      [⟨.send peer client.port client.credentials request, .ok response⟩] (.ok response) := by
    unfold send
    rw [sendable]
    exact ends_call_bind.mpr ⟨_, _, rfl, ends_ofExcept.mpr ⟨rfl, rfl⟩⟩
  refine ends_bind.mpr (.inr ⟨response, _, [], rfl, sent, ends_ofExcept.mpr ⟨rfl, ?_⟩⟩)
  cases response.payload request.path <;> rfl

theorem document_succeeds (sendable : Net.Target.pathFault? request.path = none)
    (payload : response.payload request.path = .ok document) :
    (client.document peer request).Ends
      [⟨.send peer client.port client.credentials request, .ok response⟩] (.ok document) := by
  rw [← payload]
  exact document_sent client peer response sendable

theorem ask_refused {α : Type} (read? : Json → Option α) {e : ManagementFailure}
    (sendable : Net.Target.pathFault? request.path = none) (refused : response.payload request.path = .error e) :
    (client.ask peer request read?).Ends
      [⟨.send peer client.port client.credentials request, .ok response⟩] (.error e) := by
  refine ends_bind.mpr (.inl ⟨e, ?_, rfl⟩)
  rw [← refused]
  exact document_sent client peer response sendable

theorem ask_succeeds {α : Type} {read? : Json → Option α} {a : α}
    (sendable : Net.Target.pathFault? request.path = none) (payload : response.payload request.path = .ok document)
    (decoded : Response.decode request.path read? document = .ok a) :
    (client.ask peer request read?).Ends
      [⟨.send peer client.port client.credentials request, .ok response⟩] (.ok a) :=
  ends_bind.mpr (.inr ⟨document, _, [], rfl, document_succeeds client peer sendable payload,
    ends_ofExcept.mpr ⟨rfl, by rw [decoded]; rfl⟩⟩)

theorem order_succeeds (sendable : Net.Target.pathFault? request.path = none)
    (payload : response.payload request.path = .ok document) :
    (client.order peer request).Ends
      [⟨.send peer client.port client.credentials request, .ok response⟩] (.ok ()) :=
  ends_bind.mpr (.inr ⟨document, _, [], rfl, document_succeeds client peer sendable payload, .done _⟩)

end ManagementClient

namespace Cluster

variable {c : Cluster} {pace : Pace} {p : ClusterPass} {ns : String}

def foundResources (c : Cluster) (ns : String) : List Exchange :=
  [⟨.find .secret ns c.secretName, .ok ()⟩,
    ⟨.write ns (.applyConfig c.configMap), .ok ()⟩, ⟨.write ns (.applyService c.headlessService), .ok ()⟩,
    ⟨.find .secret ns c.secretName, .ok ()⟩, ⟨.find .configMap ns c.configName, .ok ()⟩,
    ⟨.find .service ns c.headlessName, .ok ()⟩]

theorem bootstrapStep_succeeds (pace : Pace) (left : p.status.currentState ≠ .empty) (place : c.placed = .ok ns) :
    (c.bootstrapStep pace p).Ends (c.foundResources ns) (.ok { p with initReady := true }) := by
  unfold bootstrapStep ensureResources Pass.object
  dsimp only
  rw [if_neg left, place]
  exact .ask _ (.ask _ (.ask _ (.ask _ (.ask _ (.ask _ (.done _))))))

theorem generationStep_succeeds (place : c.placed = .ok ns) {template : PodTemplate}
    (desired : c.desiredTemplate = .ok template) {sets : List StatefulSet} {name hash : String}
    (resolved : c.resolveGeneration template (existingOf sets) = .ok (.adopt name hash))
    (sized : (sets.find? (·.name == some name)).bind (·.replicas) = some c.spec.replicas)
    (pods : List Pod) :
    (c.generationStep p).Ends [⟨.listSets ns c.selector, .ok sets⟩, ⟨.listPods ns c.selector, .ok pods⟩]
      (.ok { p with generations := Generation.collect sets pods, update := some name }) := by
  unfold generationStep resize Pass.object Pass.api
  dsimp only
  rw [place, desired]
  have sized' : ((sets.find? (·.name == some name)).bind (·.replicas) == some c.spec.replicas) = true := by
    rw [sized]
    exact beq_self_eq_true _
  refine ends_call_bind.mpr ⟨_, _, rfl, ?_⟩
  refine ends_ofExcept_bind.mpr (.inr ⟨sets, rfl, ?_⟩)
  refine ends_ofExcept_bind.mpr (.inr ⟨_, resolved, ?_⟩)
  dsimp only
  rw [if_pos sized']
  exact .ask _ (.done _)

theorem generationStep_resizes (place : c.placed = .ok ns) {template : PodTemplate}
    (desired : c.desiredTemplate = .ok template) {sets : List StatefulSet} {name hash : String}
    (resolved : c.resolveGeneration template (existingOf sets) = .ok (.adopt name hash))
    (other : (sets.find? (·.name == some name)).bind (·.replicas) ≠ some c.spec.replicas) (set : StatefulSet)
    (pods : List Pod) :
    (c.generationStep p).Ends [⟨.listSets ns c.selector, .ok sets⟩,
        ⟨.write ns (.scaleGeneration name c.spec.replicas), .ok set⟩, ⟨.listPods ns c.selector, .ok pods⟩]
      (.ok { p with generations := Generation.collect (putSet set sets) pods, update := some name }) := by
  unfold generationStep resize Pass.object Pass.api
  dsimp only
  rw [place, desired]
  refine ends_call_bind.mpr ⟨_, _, rfl, ?_⟩
  refine ends_ofExcept_bind.mpr (.inr ⟨sets, rfl, ?_⟩)
  refine ends_ofExcept_bind.mpr (.inr ⟨_, resolved, ?_⟩)
  dsimp only
  rw [if_neg (by rwa [beq_iff_eq])]
  exact .ask _ (.ask _ (.done _))

theorem generationStep_creates (place : c.placed = .ok ns) {template : PodTemplate}
    (desired : c.desiredTemplate = .ok template) {sets : List StatefulSet} {name hash : String}
    (resolved : c.resolveGeneration template (existingOf sets) = .ok (.create name hash))
    {manifest : GenerationManifest} (made : c.manifestOf name hash = .ok manifest) (set : StatefulSet)
    (pods : List Pod) :
    (c.generationStep p).Ends [⟨.listSets ns c.selector, .ok sets⟩, ⟨.write ns (.applyGeneration manifest), .ok set⟩,
        ⟨.tell ⟨.normal, "GenerationCreated", "Created generation " ++ manifest.metadata.name⟩, ()⟩,
        ⟨.listPods ns c.selector, .ok pods⟩]
      (.ok { p with generations := Generation.collect (putSet set sets) pods, update := some name }) := by
  unfold generationStep Pass.object Pass.api
  dsimp only
  rw [place, desired]
  refine ends_call_bind.mpr ⟨_, _, rfl, ?_⟩
  refine ends_ofExcept_bind.mpr (.inr ⟨sets, rfl, ?_⟩)
  refine ends_ofExcept_bind.mpr (.inr ⟨_, resolved, ?_⟩)
  dsimp only
  rw [made]
  exact .ask _ (.ask _ (.ask _ (.done _)))

theorem endpoint_of_placed (place : c.placed = .ok ns) (pod : String) :
    c.endpoint pod = .ok ⟨ns, pod, c.hostOf ns pod⟩ := by
  unfold placed at place
  unfold endpoint
  cases found : c.ns? with
  | none =>
      rw [found] at place
      cases place
  | some other =>
      rw [found] at place
      cases place
      rfl

theorem signIn_succeeds (place : c.placed = .ok ns) {secret : Secret} {credentials : Credentials}
    (signed : c.credentialsOf secret = .ok credentials) :
    c.signIn.Ends [⟨.getSecret ns c.secretName, .ok secret⟩] (.ok ⟨credentials, c.dashboardPort⟩) := by
  unfold signIn
  rw [place]
  refine .ask _ ?_
  refine ends_ofExcept_bind.mpr (.inr ⟨some secret, rfl, ?_⟩)
  exact ends_ofExcept_bind.mpr (.inr ⟨credentials, signed, .done _⟩)

theorem nodeStep_succeeds (pace : Pace) (place : c.placed = .ok ns) {replica : Replica}
    (chosen : Generation.chooseReplica? p.generations p.update = some replica) {secret : Secret}
    {credentials : Credentials} (signed : c.credentialsOf secret = .ok credentials) {response : Response}
    {document : Option Json} {nodes : List ClusterNode}
    (payload : response.payload ManagementRequest.nodes.path = .ok document)
    (decoded : Response.decode ManagementRequest.nodes.path (Json.list? ClusterNode.ofReport?) document =
      .ok nodes) :
    (c.nodeStep pace p).Ends
      [⟨.getSecret ns c.secretName, .ok secret⟩,
        ⟨.send ⟨ns, replica.name, c.hostOf ns replica.name⟩ c.dashboardPort credentials .nodes, .ok response⟩]
      (.ok { p with
        status := { p.status with nodes }
        link := some ⟨⟨credentials, c.dashboardPort⟩, ⟨ns, replica.name, c.hostOf ns replica.name⟩⟩ }) := by
  have signs : (Pass.access c.signIn).Ends [⟨.getSecret ns c.secretName, .ok secret⟩]
      (.ok ⟨credentials, c.dashboardPort⟩) :=
    ends_mapFailure.mpr ⟨_, signIn_succeeds place signed, rfl⟩
  have asked := ManagementClient.ask_succeeds ⟨credentials, c.dashboardPort⟩
    ⟨ns, replica.name, c.hostOf ns replica.name⟩ pathFault?_nodes payload decoded
  unfold nodeStep
  rw [chosen]
  refine ends_bind.mpr (.inr ⟨_, _, _, rfl, signs, ?_⟩)
  refine ends_ofExcept_bind.mpr (.inr ⟨_, endpoint_of_placed place replica.name, ?_⟩)
  refine ends_bind.mpr (.inr ⟨nodes, _, [], rfl, ends_mapFailure.mpr ⟨_, asked, rfl⟩, ?_⟩)
  exact ends_pure.mpr ⟨rfl, rfl⟩

theorem stateStep_succeeds (pace : Pace) {now : Instant}
    (proceeds : (p.status.advance (c.observe p.initReady p.status.nodes p.generations p.update) now).2 =
      .continue) :
    ∃ told, Quiet told ∧ (c.stateStep pace p).Ends (⟨.clock, now⟩ :: told) (.ok { p with
      status := (p.status.advance (c.observe p.initReady p.status.nodes p.generations p.update) now).1 }) := by
  have looks : ∀ {f : Instant → Pass ClusterPass} {r : Except Failure ClusterPass},
      (∃ told, Quiet told ∧ (f now).Ends told r) →
      ∃ told, Quiet told ∧ ((Attempt.now : Pass Instant) >>= f).Ends (⟨.clock, now⟩ :: told) r := by
    intro f r h
    rcases h with ⟨told, quiet, ends⟩
    exact ⟨told, quiet, ends_now_bind.mpr ⟨now, told, rfl, ends⟩⟩
  unfold stateStep
  apply looks
  dsimp only
  rw [proceeds]
  simp only [ends_pure_bind]
  split
  · exact ⟨[⟨.tell _, ()⟩], quiet_cons (fun h => h) quiet_nil,
      ends_tell_bind.mpr ⟨[], rfl, ends_pure.mpr ⟨rfl, rfl⟩⟩⟩
  · exact ⟨[], quiet_nil, ends_pure.mpr ⟨rfl, rfl⟩⟩

theorem stateStep_silent {now : Instant} {status : ClusterStatus} (pace : Pace)
    (advances : p.status.advance (c.observe p.initReady p.status.nodes p.generations p.update) now = (status, .continue))
    (unbegun : p.status.blueGreenUpdate = none → status.blueGreenUpdate = none) :
    (c.stateStep pace p).Ends [⟨.clock, now⟩] (.ok { p with status }) := by
  unfold stateStep
  refine ends_now_bind.mpr ⟨now, [], rfl, ?_⟩
  dsimp only
  rw [advances]
  dsimp only
  cases known : p.status.blueGreenUpdate with
  | none =>
      rw [unbegun known]
      exact ends_pure_bind.mpr (ends_pure.mpr ⟨rfl, rfl⟩)
  | some u => exact ends_pure_bind.mpr (ends_pure.mpr ⟨rfl, rfl⟩)

def beforeEvacuation : List Step :=
  [.initResources, .generations, .nodes, .stateMachine]

theorem reaches_cons (step : Step) {rest : List Step} {next reached : ClusterPass}
    {first later : List Exchange} (taken : (step.run c pace p).Ends first (.ok next))
    (proceeds : next.halted = false) (reaches : c.Reaches pace rest next later reached) :
    c.Reaches pace (step :: rest) p (first ++ later) reached :=
  ⟨runSteps_cons.mpr (.inr (.inr ⟨next, first, later, rfl, taken, proceeds, reaches.1⟩)), reaches.2⟩

theorem reaches_nil (going : p.halted = false) : c.Reaches pace [] p [] p :=
  ⟨runSteps_nil.mpr ⟨rfl, rfl⟩, going⟩

theorem runSteps_fails {q : ClusterPass} {before log : List Exchange} {e : Failure}
    (arrives : c.Reaches pace beforeEvacuation p before q)
    (fails : (c.evacuationStep pace q).Ends log (.error e)) :
    (c.runSteps pace Step.all p).Yields (before ++ log) (q, some (.evacuation, e)) := by
  have stops : (c.runSteps pace [.evacuation, .readinessGates, .listeners] q).Yields log
      (q, some (.evacuation, e)) := runSteps_cons.mpr (.inl ⟨e, fails, rfl⟩)
  exact arrives.append stops

theorem writeStatus_comes (place : c.placed = .ok ns) (status : ClusterStatus) :
    ∃ log r, (c.writeStatus status).Ends log r := by
  unfold writeStatus
  split
  · exact ⟨[], _, .done _⟩
  · rw [place]
    exact ⟨[⟨.write ns (.clusterStatus c.name status), .error (.answered 500)⟩], _, .ask _ (.done _)⟩

theorem pass_fails {latest : Cluster} {q : ClusterPass} {steps : List Exchange} {step : Step} {e : Failure}
    (place : c.placed = .ok ns) (stays : latest.metadata.deleted = none) (stored : latest.placed = .ok ns)
    (run : (latest.runSteps pace Step.all (.start (latest.status.getD .initial))).Yields steps (q, some (step, e)))
    (now : Instant) :
    ∃ log others written, log = ⟨.getCluster ns c.name, .ok latest⟩ :: (steps ++ ⟨.clock, now⟩ :: others) ∧
      (latest.writeStatus (latest.settled q (some (step, e)) now)).Ends others written ∧
      (c.pass pace).Ends log (.error e) := by
  obtain ⟨others, written, wrote⟩ := writeStatus_comes stored (latest.settled q (some (step, e)) now)
  refine ⟨_, others, written, rfl, wrote, ?_⟩
  unfold pass Pass.object Pass.api
  rw [place]
  refine .ask _ ?_
  refine ends_ofExcept_bind.mpr (.inr ⟨latest, rfl, ?_⟩)
  rw [stays]
  refine ends_lift_bind.mpr ⟨(q, some (step, e)), steps, _, rfl, run, ?_⟩
  refine ends_now_bind.mpr ⟨now, others, rfl, ?_⟩
  exact ends_outcome_bind.mpr ⟨written, others, [], (List.append_nil others).symm, wrote, .done _⟩

/-- A pass over a cluster that two generations are live in comes to the evacuation, if all that is asked is
answered. -/
theorem reaches_evacuation {s : ClusterStatus} (left : s.currentState ≠ .empty)
    (place : c.placed = .ok ns) {template : PodTemplate} (desired : c.desiredTemplate = .ok template)
    {sets : List StatefulSet} {name hash : String}
    (resolved : c.resolveGeneration template (existingOf sets) = .ok (.adopt name hash))
    (sized : (sets.find? (·.name == some name)).bind (·.replicas) = some c.spec.replicas)
    {pods : List Pod} {generations : List Generation}
    (collected : Generation.collect sets pods = generations) {replica : Replica}
    (chosen : Generation.chooseReplica? generations (some name) = some replica) {secret : Secret}
    {credentials : Credentials} (signed : c.credentialsOf secret = .ok credentials) {response : Response}
    {document : Option Json} {nodes : List ClusterNode}
    (payload : response.payload ManagementRequest.nodes.path = .ok document)
    (decoded : Response.decode ManagementRequest.nodes.path (Json.list? ClusterNode.ofReport?) document =
      .ok nodes) {now : Instant}
    (proceeds : (({ s with nodes } : ClusterStatus).advance
      (c.observe true nodes generations (some name)) now).2 = .continue) :
    ∃ before after, Quiet before ∧ Quiet after ∧
      c.Reaches pace beforeEvacuation (.start s) (before ++ ⟨.listSets ns c.selector, .ok sets⟩ :: after) {
        status := (({ s with nodes } : ClusterStatus).advance
          (c.observe true nodes generations (some name)) now).1
        generations
        update := some name
        link := some ⟨⟨credentials, c.dashboardPort⟩, ⟨ns, replica.name, c.hostOf ns replica.name⟩⟩
        initReady := true
        requeue := .steady
        halted := false } := by
  subst collected
  have booted := bootstrapStep_succeeds pace (p := .start s) left place
  have stamped := generationStep_succeeds (p := { ClusterPass.start s with initReady := true }) place desired
    resolved sized pods
  have asked := nodeStep_succeeds pace (p := { ClusterPass.start s with
    initReady := true
    generations := Generation.collect sets pods
    update := some name }) place chosen signed payload decoded
  obtain ⟨told, quiet, stated⟩ := stateStep_succeeds pace (p := {
    status := { s with nodes }
    generations := Generation.collect sets pods
    update := some name
    link := some ⟨⟨credentials, c.dashboardPort⟩, ⟨ns, replica.name, c.hostOf ns replica.name⟩⟩
    initReady := true
    requeue := .steady
    halted := false }) proceeds
  have found : Quiet (c.foundResources ns) :=
    Step.run_quiet .initResources (by decide) (by decide) booted
  have answered := Step.run_quiet .nodes (by decide) (by decide) asked
  have observed := Step.run_quiet .stateMachine (by decide) (by decide) stated
  have arrives := reaches_cons .initResources booted rfl (reaches_cons .generations stamped rfl
    (reaches_cons .nodes asked rfl (reaches_cons .stateMachine stated rfl (reaches_nil rfl))))
  rw [List.append_nil] at arrives
  have listed : Quiet (⟨.listPods ns c.selector, .ok pods⟩ :: _) :=
    quiet_cons (fun h => h) (quiet_append answered observed)
  exact ⟨c.foundResources ns, _, found, listed, arrives⟩

/-! ### Retiring a replica -/

theorem evacuationStep_begins {update : BlueGreenUpdate}
    (recorded : p.status.blueGreenUpdate = some update)
    (supported : c.capability.supportsEvacuation = true) {now : Instant}
    (elapsed : BlueGreenUpdate.delayRemaining? update.startedAt c.spec.updateStrategy.initialDelaySeconds now = none)
    {link : ManagementLink} (linked : p.link = some link) {outgoing : Generation}
    (found : Generation.find? update.originGeneration p.generations = some outgoing)
    {lastPod : String} (last : outgoing.lastReplica? = some lastPod) {log : List Exchange}
    {r : Except Failure ClusterPass}
    (goes : (c.evacuateFrom pace update link outgoing lastPod p).Ends log r) :
    (c.evacuationStep pace p).Ends (⟨.clock, now⟩ :: log) r := by
  unfold evacuationStep
  rw [recorded]
  dsimp only
  rw [supported, if_neg (by decide)]
  refine ends_now_bind.mpr ⟨now, _, rfl, ?_⟩
  rw [elapsed]
  dsimp only
  rw [linked]
  dsimp only
  rw [found]
  dsimp only
  rw [last]
  exact goes

theorem evacuate_scaleDown (target : String) (link : ManagementLink) (outgoing : Generation) (replicas : Int32)
    (p : ClusterPass) (f : ClusterPass → ClusterPass) (reply : Except ApiError StatefulSet) :
    ∃ rest r, Quiet rest ∧ (∀ e, reply = .error e → rest = [] ∧ r = .error (.access (.api e))) ∧
      Ends (do let next ← c.evacuate ns target link outgoing (.scaleDown replicas) p; return f next)
        (⟨.write ns (.scaleGeneration outgoing.name replicas), reply⟩ :: rest) r := by
  cases reply with
  | error e =>
      refine ⟨[], .error (.access (.api e)), quiet_nil, ?_, ?_⟩
      · intro e' same
        cases same
        exact ⟨rfl, rfl⟩
      · exact .ask _ (.done _)
  | ok set =>
      refine ⟨[⟨.tell _, ()⟩], _, quiet_cons (fun h => h) quiet_nil, ?_, .ask _ (.ask _ (.done _))⟩
      intro e same
      cases same

theorem evacuate_start {target node : String} {link : ManagementLink} {outgoing : Generation} {migrateTo : List String}
    {f : ClusterPass → ClusterPass} {response : Response} {document : Option Json}
    (sendable : Net.Target.pathFault? (ManagementRequest.startEvacuation node
      (.ofStrategy c.spec.updateStrategy.evacuationStrategy migrateTo)).path = none)
    (payload : response.payload (ManagementRequest.startEvacuation node
      (.ofStrategy c.spec.updateStrategy.evacuationStrategy migrateTo)).path = .ok document) :
    Ends (do let next ← c.evacuate ns target link outgoing (.start node migrateTo) p; return f next)
      [⟨.send link.endpoint link.client.port link.client.credentials (.startEvacuation node
          (.ofStrategy c.spec.updateStrategy.evacuationStrategy migrateTo)), .ok response⟩,
        ⟨.tell ⟨.normal, "EvacuationStarted", "Evacuating clients from " ++ node⟩, ()⟩] (.ok (f p)) := by
  have given := ManagementClient.order_succeeds link.client link.endpoint sendable payload
  have ordered : (c.evacuate ns target link outgoing (.start node migrateTo) p).Ends _ (.ok p) :=
    ends_bind.mpr (.inr ⟨(), _, _, rfl, ends_mapFailure.mpr ⟨_, given, rfl⟩,
      ends_tell_bind.mpr ⟨[], rfl, ends_pure.mpr ⟨rfl, rfl⟩⟩⟩)
  exact ends_bind.mpr (.inr ⟨p, _, [], (List.append_nil _).symm, ordered, ends_pure.mpr ⟨rfl, rfl⟩⟩)

section Report

variable {update : BlueGreenUpdate} {now : Instant} {link : ManagementLink} {outgoing : Generation}
  {lastPod target : String} {nodes incoming : List String} {response : Response} {document : Option Json}
  {report : LoadReport}

theorem evacuationStep_acts (place : c.placed = .ok ns) (recorded : p.status.blueGreenUpdate = some update)
    (supported : c.capability.supportsEvacuation = true)
    (elapsed : BlueGreenUpdate.delayRemaining? update.startedAt c.spec.updateStrategy.initialDelaySeconds now = none)
    (linked : p.link = some link) (found : Generation.find? update.originGeneration p.generations = some outgoing)
    (last : outgoing.lastReplica? = some lastPod) (aim : c.nodeOf lastPod = .ok target)
    (named : outgoing.pods.mapM (fun pod => c.nodeOf pod.name) = .ok nodes)
    (known : c.incomingNodes? (Generation.find? update.currentGeneration p.generations) p.status.nodes =
      some incoming)
    (payload : response.payload ManagementRequest.loadStatus.path = .ok document)
    (decoded : Response.decode ManagementRequest.loadStatus.path LoadReport.ofReport? document = .ok report)
    {log : List Exchange} {r : Except Failure ClusterPass}
    (acts :
      let records := report.evacuations.filter fun e => nodes.contains e.node
      let recorded := p.status.blueGreenUpdate.map fun u => { u with evacuations := records }
      Ends (do
        let next ← c.evacuate ns target link outgoing
          (EvacuationPlan.choose target outgoing.replicas records incoming)
          { p with status := { p.status with blueGreenUpdate := recorded } }
        return next.ask (.retryAfter pace.retry)) log r) :
    (c.evacuationStep pace p).Ends (⟨.clock, now⟩ ::
      ⟨.send link.endpoint link.client.port link.client.credentials .loadStatus, .ok response⟩ :: log) r := by
  have asked : (Pass.management (link.client.loadReport link.endpoint)).Ends
      [⟨.send link.endpoint link.client.port link.client.credentials .loadStatus, .ok response⟩]
      (.ok report) :=
    ends_mapFailure.mpr ⟨_, ManagementClient.ask_succeeds _ _ pathFault?_loadStatus payload decoded, rfl⟩
  apply evacuationStep_begins recorded supported elapsed linked found last
  unfold evacuateFrom
  refine ends_ofExcept_bind.mpr (.inr ⟨nodes, named, ?_⟩)
  refine ends_bind.mpr (.inr ⟨report, _, _, rfl, asked, ?_⟩)
  dsimp only
  rw [known]
  refine ends_pure_bind.mpr (ends_ofExcept_bind.mpr (.inr ⟨target, aim, ?_⟩))
  exact ends_ofExcept_bind.mpr (.inr ⟨ns, place, acts⟩)

/-- Once the last node of the origin is reported as drained, the evacuation shrinks the origin, whatever
becomes of that. -/
theorem evacuationStep_shrinks (place : c.placed = .ok ns) (recorded : p.status.blueGreenUpdate = some update)
    (supported : c.capability.supportsEvacuation = true)
    (elapsed : BlueGreenUpdate.delayRemaining? update.startedAt c.spec.updateStrategy.initialDelaySeconds now = none)
    (linked : p.link = some link) (found : Generation.find? update.originGeneration p.generations = some outgoing)
    (last : outgoing.lastReplica? = some lastPod) (aim : c.nodeOf lastPod = .ok target)
    (named : outgoing.pods.mapM (fun pod => c.nodeOf pod.name) = .ok nodes)
    (known : c.incomingNodes? (Generation.find? update.currentGeneration p.generations) p.status.nodes =
      some incoming)
    (payload : response.payload ManagementRequest.loadStatus.path = .ok document)
    (decoded : Response.decode ManagementRequest.loadStatus.path LoadReport.ofReport? document = .ok report)
    (drained : EvacuationPlan.choose target outgoing.replicas
      (report.evacuations.filter fun e => nodes.contains e.node) incoming =
      .scaleDown (outgoing.replicas - 1)) (reply : Except ApiError StatefulSet) :
    ∃ rest r, Quiet rest ∧ (∀ e, reply = .error e → rest = [] ∧ r = .error (.access (.api e))) ∧
      (c.evacuationStep pace p).Ends (⟨.clock, now⟩ ::
        ⟨.send link.endpoint link.client.port link.client.credentials .loadStatus, .ok response⟩ ::
        ⟨.write ns (.scaleGeneration outgoing.name (outgoing.replicas - 1)), reply⟩ :: rest) r := by
  obtain ⟨rest, r, quiet, failed, acts⟩ := evacuate_scaleDown (c := c) target link outgoing
    (outgoing.replicas - 1) { p with status := { p.status with
      blueGreenUpdate := p.status.blueGreenUpdate.map fun u =>
        { u with evacuations := report.evacuations.filter fun e => nodes.contains e.node } } }
    (fun next => next.ask (.retryAfter pace.retry)) reply
  refine ⟨rest, r, quiet, failed, ?_⟩
  apply evacuationStep_acts place recorded supported elapsed linked found last aim named known payload decoded
  dsimp only
  rw [drained]
  exact acts

end Report

theorem evacuationStep_unanswered (pace : Pace) {update : BlueGreenUpdate}
    (recorded : p.status.blueGreenUpdate = some update)
    (supported : c.capability.supportsEvacuation = true) {now : Instant}
    (elapsed : BlueGreenUpdate.delayRemaining? update.startedAt c.spec.updateStrategy.initialDelaySeconds now = none)
    {link : ManagementLink} (linked : p.link = some link) {outgoing : Generation}
    (found : Generation.find? update.originGeneration p.generations = some outgoing)
    {lastPod : String} (last : outgoing.lastReplica? = some lastPod) {nodes : List String}
    (named : outgoing.pods.mapM (fun pod => c.nodeOf pod.name) = .ok nodes) (e : TransportFailure) :
    (c.evacuationStep pace p).Ends [⟨.clock, now⟩,
      ⟨.send link.endpoint link.client.port link.client.credentials .loadStatus, .error e⟩]
      (.error (.management (.transport e))) := by
  apply evacuationStep_begins recorded supported elapsed linked found last
  unfold evacuateFrom
  refine ends_ofExcept_bind.mpr (.inr ⟨nodes, named, ?_⟩)
  refine ends_bind.mpr (.inl ⟨_, ends_mapFailure.mpr ⟨.error (.transport e), ?_, rfl⟩, rfl⟩)
  unfold ManagementClient.loadReport ManagementClient.ask ManagementClient.document ManagementClient.send
  rw [pathFault?_loadStatus]
  exact .ask _ (.done _)

end Cluster

namespace ClusterStatus

variable {s : ClusterStatus} {o : Observation} {now : Instant} {u : BlueGreenUpdate}

theorem chooseUpdate_kept (known : s.blueGreenUpdate = some u)
    (same : ∀ update origin, o.updateServes = true → o.update = some update → o.origin = some origin →
      u.originGeneration = origin ∧ u.currentGeneration = update.name) : s.chooseUpdate o now = some u := by
  unfold chooseUpdate
  split
  · next update origin serves hupdate horigin =>
    obtain ⟨rfl, current⟩ := same update origin serves hupdate horigin
    rw [known, Option.any_some, current]
    simp
  · exact known

end ClusterStatus

/-! ### Two generations -/

theorem Cluster.resolveGeneration_head {c : Cluster} {template : PodTemplate} {name hash : String}
    {rest : List Generation.Existing} (h : Generation.templateHash template.spec = hash) :
    c.resolveGeneration template (⟨name, some hash⟩ :: rest) = .ok (.adopt name hash) := by
  subst h
  have head : (⟨name, some (Generation.templateHash template.spec)⟩ :: rest : List Generation.Existing).find?
      (·.hash == some (Generation.templateHash template.spec)) =
      some ⟨name, some (Generation.templateHash template.spec)⟩ :=
    List.find?_cons_of_pos (beq_self_eq_true _)
  unfold Generation.templateHash at head ⊢
  unfold resolveGeneration Generation.resolve?
  dsimp only
  rw [head]

theorem mergeSort_pair {α : Type} {le : α → α → Bool} {a b : α} :
    [a, b].mergeSort le = if le a b then [a, b] else [b, a] := by
  simp [List.mergeSort, List.MergeSort.Internal.splitInTwo, List.merge]

def sampleCluster (image : String) (status : ClusterStatus) : Cluster where
  metadata := ⟨some "broker", none, some "default", none, none, none, none, none, none, none, none, []⟩
  spec := ⟨.enterprise, image, none, none, 1, none, [], none, none, none, none, none, 18083, ⟨0, default⟩⟩
  status := some status

def sampleHash (image : String) : String :=
  Generation.templateHash ((sampleCluster image .initial).podSpec "default")

def sampleSet (name image : String) (created : Int) : StatefulSet :=
  ⟨some name, some (sampleHash image), some 1, some ⟨created, 0⟩⟩

def samplePod (set : String) (ready : Bool) : Pod where
  name := set ++ "-0"
  owners := [⟨"apps/v1", "StatefulSet", set, "", some true, some true⟩]
  hash := none
  conditions := [⟨"ContainersReady", ready⟩]

def samplePods (firstReady secondReady : Bool) : List Pod :=
  [samplePod "broker-first" firstReady, samplePod "broker-second" secondReady]

def firstSet : StatefulSet := sampleSet "broker-first" "broker:1" 100

def secondSet : StatefulSet := sampleSet "broker-second" "broker:2" 200

def sampleGeneration (name image : String) (created : Int) (ready : Bool) : Generation :=
  ⟨name, sampleHash image, 1, some ⟨created, 0⟩, [.ofPod (samplePod name ready)]⟩

def sampleGenerations (firstReady secondReady : Bool) : List Generation :=
  [sampleGeneration "broker-second" "broker:2" 200 secondReady,
    sampleGeneration "broker-first" "broker:1" 100 firstReady]

theorem ofSet?_sample {name image : String} {created : Int} {ready : Bool} {pods : List Pod}
    (owned : pods.filter (Generation.owns name) = [samplePod name ready]) :
    Generation.ofSet? pods (sampleSet name image created) =
      some (sampleGeneration name image created ready) := by
  unfold Generation.ofSet? sampleSet sampleGeneration
  simp only [Option.bind_eq_bind, Option.bind_some, owned, List.map_cons, List.map_nil,
    List.mergeSort_singleton, Option.getD_some]

theorem collect_sample {firstReady secondReady : Bool} {sets : List StatefulSet}
    (shown : sets = [firstSet, secondSet] ∨ sets = [secondSet, firstSet]) :
    Generation.collect sets (samplePods firstReady secondReady) =
      sampleGenerations firstReady secondReady := by
  have first : Generation.ofSet? (samplePods firstReady secondReady) firstSet =
      some (sampleGeneration "broker-first" "broker:1" 100 firstReady) := ofSet?_sample rfl
  have second : Generation.ofSet? (samplePods firstReady secondReady) secondSet =
      some (sampleGeneration "broker-second" "broker:2" 200 secondReady) := ofSet?_sample rfl
  rcases shown with rfl | rfl
  · simp only [Generation.collect, List.filterMap_cons, first, second, List.filterMap_nil, mergeSort_pair]
    rfl
  · simp only [Generation.collect, List.filterMap_cons, first, second, List.filterMap_nil, mergeSort_pair]
    rfl

def sampleTime (minutes : Int) : Instant := ⟨1714564800 + 60 * minutes, 0⟩

def sampleUpdate : BlueGreenUpdate :=
  ⟨"broker-first", "broker-second", Rfc3339.format (sampleTime 1), []⟩

def sampleSecret : Secret :=
  ⟨some [(bootstrapKey, Text.Utf8.encode "user:key")]⟩

theorem credentialsOf_sample {image : String} {s : ClusterStatus} :
    (sampleCluster image s).credentialsOf sampleSecret = .ok ⟨"user", "key"⟩ := by
  have entry : sampleSecret.entry? bootstrapKey = some (Text.Utf8.encode "user:key") := by decide +kernel
  have text : Text.Utf8.decode? (Text.Utf8.encode "user:key") = some "user:key" := by decide +kernel
  have parsed : Credentials.parse? "user:key" = some ⟨"user", "key"⟩ := by decide +kernel
  unfold Cluster.credentialsOf
  rw [entry]
  dsimp only
  rw [text]
  dsimp only
  rw [parsed]

def sampleLink (c : Cluster) (pod : String) : ManagementLink :=
  ⟨⟨⟨"user", "key"⟩, c.dashboardPort⟩, ⟨"default", pod, c.hostOf "default" pod⟩⟩

def sampleSight (image name : String) (firstReady secondReady : Bool) (s : ClusterStatus) : Observation :=
  (sampleCluster image s).observe true [] (sampleGenerations firstReady secondReady) (some name)

def sampleArrival (image name : String) (firstReady secondReady : Bool) (pod : String) (s : ClusterStatus)
    (now : Instant) : ClusterPass where
  status := (({ s with nodes := [] } : ClusterStatus).advance
    (sampleSight image name firstReady secondReady s) now).1
  generations := sampleGenerations firstReady secondReady
  update := some name
  link := some (sampleLink (sampleCluster image s) pod)
  initReady := true
  requeue := .steady
  halted := false

theorem sample_advance {image name : String} {firstReady secondReady : Bool} {s : ClusterStatus}
    (left : s.currentState ≠ .empty) (now : Instant) :
    let o := sampleSight image name firstReady secondReady s
    ({ s with nodes := [] } : ClusterStatus).advance o now =
      ((({ s with nodes := [] } : ClusterStatus).recorded o now).continueUpdate o now, .continue) := by
  have several : 1 < (Generation.live (sampleGenerations firstReady secondReady)).length := by
    rw [show (Generation.live (sampleGenerations firstReady secondReady)).length = 2 from rfl]
    decide
  exact ClusterStatus.advance_of_several left rfl several rfl

theorem sampleArrival_update {image name pod : String} {firstReady secondReady : Bool} {s : ClusterStatus}
    (left : s.currentState ≠ .empty) (now : Instant) :
    (sampleArrival image name firstReady secondReady pod s now).status.blueGreenUpdate =
      ({ s with nodes := [] } : ClusterStatus).chooseUpdate
        (sampleSight image name firstReady secondReady s) now := by
  rw [sampleArrival]
  dsimp only
  rw [sample_advance left]
  rfl

theorem sample_begins {pod : String} {s : ClusterStatus} (left : s.currentState ≠ .empty)
    (untouched : s.blueGreenUpdate = none) :
    (sampleArrival "broker:2" "broker-second" true true pod s (sampleTime 1)).status.blueGreenUpdate =
      some sampleUpdate := by
  have serves : (sampleSight "broker:2" "broker-second" true true s).updateServes = true := rfl
  rw [sampleArrival_update left]
  unfold ClusterStatus.chooseUpdate
  rw [serves]
  dsimp only
  rw [untouched]
  rfl

theorem sample_keeps {pod : String} {s : ClusterStatus} (left : s.currentState ≠ .empty)
    (known : s.blueGreenUpdate = some sampleUpdate) (now : Instant) :
    (sampleArrival "broker:2" "broker-second" true true pod s now).status.blueGreenUpdate = some sampleUpdate := by
  rw [sampleArrival_update left]
  refine ClusterStatus.chooseUpdate_kept known ?_
  intro update origin _ hupdate horigin
  cases hupdate
  cases horigin
  exact ⟨rfl, rfl⟩

def sampleTemplate (image : String) (s : ClusterStatus) : PodTemplate :=
  ⟨(sampleCluster image s).labels, (sampleCluster image .initial).podSpec "default"⟩

theorem sample_desired {image : String} {s : ClusterStatus} :
    (sampleCluster image s).desiredTemplate = .ok (sampleTemplate image s) :=
  rfl

theorem sample_resolves {s : ClusterStatus} {image name : String} {sets : List StatefulSet}
    {rest : List Generation.Existing}
    (head : Cluster.existingOf sets = ⟨name, some (sampleHash image)⟩ :: rest) :
    (sampleCluster image s).resolveGeneration (sampleTemplate image s) (Cluster.existingOf sets) =
      .ok (.adopt name (sampleHash image)) := by
  rw [head]
  exact Cluster.resolveGeneration_head rfl

theorem sample_reaches (pace : Pace) (image name : String) (firstReady secondReady : Bool) {s : ClusterStatus}
    {sets : List StatefulSet} {rest : List Generation.Existing} {replica : Replica}
    (left : s.currentState ≠ .empty) (shown : sets = [firstSet, secondSet] ∨ sets = [secondSet, firstSet])
    (head : Cluster.existingOf sets = ⟨name, some (sampleHash image)⟩ :: rest)
    (sized : (sets.find? (·.name == some name)).bind (·.replicas) = some 1)
    (chosen : Generation.chooseReplica? (sampleGenerations firstReady secondReady) (some name) = some replica)
    (now : Instant) :
    ∃ before after, Quiet before ∧ Quiet after ∧
      (sampleCluster image s).Reaches pace Cluster.beforeEvacuation (.start s)
        (before ++ ⟨.listSets "default" (sampleCluster image s).selector, .ok sets⟩ :: after)
        (sampleArrival image name firstReady secondReady replica.name s now) := by
  have place : (sampleCluster image s).placed = .ok "default" := rfl
  have payload : (⟨200, [0x5b, 0x5d]⟩ : Response).payload ManagementRequest.nodes.path =
      .ok (some (.array [])) := rfl
  have decoded : Response.decode ManagementRequest.nodes.path (Json.list? ClusterNode.ofReport?)
      (some (.array [])) = .ok [] := rfl
  exact Cluster.reaches_evacuation left place sample_desired (sample_resolves head) sized
    (collect_sample shown) chosen credentialsOf_sample payload decoded (congrArg Prod.snd (sample_advance left now))

theorem Response.payload_of_document {r : Response} {path : String}
    (accepted : r.document?.bind refusal? = none) (success : r.isSuccess = true) :
    r.payload path = .ok r.document? := by
  unfold payload
  rw [accepted]
  exact if_pos success

theorem Response.decode_eq_ok {α : Type} {path : String} {read? : Json → Option α} {document : Option Json} {a : α} :
    decode path read? document = .ok a ↔ read? (document.getD .null) = some a := by
  unfold decode
  cases read? (document.getD .null) <;> simp

theorem Response.decode_of_read {α : Type} {path : String} {read? : Json → Option α} {document : Option Json}
    {a : α} (h : read? (document.getD .null) = some a) : decode path read? document = .ok a :=
  decode_eq_ok.mpr h

def sampleNode : String := "broker@broker-first-0.broker-headless.default.svc.cluster.local"

def drainedNode : Evacuation := ⟨sampleNode, ⟨0, 0, 0, 0⟩, "prohibiting", 0, 0, 0, 0, []⟩

def drainedReport : Response where
  status := 200
  body := Text.Utf8.encode
    ("\x7b\"evacuations\":[\x7b\"node\":\"" ++ sampleNode ++ "\",\"state\":\"prohibiting\"\x7d]\x7d")

theorem drainedReport_reads : drainedReport.document?.bind Response.refusal? = none ∧
    LoadReport.ofReport? (drainedReport.document?.getD .null) = some ⟨[drainedNode], []⟩ := by
  decide +kernel

theorem lastReplica?_sample : ∀ ready,
    (sampleGeneration "broker-first" "broker:1" 100 ready).lastReplica? = some "broker-first-0" := by
  decide +kernel

/-- While clients move from the first generation to the second, the first one is shrunk once it is drained,
whatever its pods and the desired template are. -/
theorem sample_shrinks (pace : Pace) {image name pod : String} {firstReady secondReady : Bool}
    {s : ClusterStatus} {now : Instant} {u : BlueGreenUpdate}
    (recorded : (sampleArrival image name firstReady secondReady pod s now).status.blueGreenUpdate = some u)
    (origin : u.originGeneration = "broker-first") (current : u.currentGeneration = "broker-second")
    (elapsed : BlueGreenUpdate.delayRemaining? u.startedAt 0 now = none) (reply : Except ApiError StatefulSet) :
    let link := sampleLink (sampleCluster image s) pod
    ∃ rest r, Quiet rest ∧ (∀ e, reply = .error e → rest = [] ∧ r = .error (.access (.api e))) ∧
      ((sampleCluster image s).evacuationStep pace
        (sampleArrival image name firstReady secondReady pod s now)).Ends (⟨.clock, now⟩ ::
          ⟨.send link.endpoint link.client.port link.client.credentials .loadStatus, .ok drainedReport⟩ ::
          ⟨.write "default" (.scaleGeneration "broker-first" (1 - 1)), reply⟩ :: rest) r := by
  intro link
  have place : (sampleCluster image s).placed = .ok "default" := rfl
  have found : Generation.find? u.originGeneration (sampleGenerations firstReady secondReady) =
      some (sampleGeneration "broker-first" "broker:1" 100 firstReady) := by
    rw [origin]
    rfl
  have aim : (sampleCluster image s).nodeOf "broker-first-0" = .ok sampleNode := rfl
  have named : (sampleGeneration "broker-first" "broker:1" 100 firstReady).pods.mapM
      (fun pod => (sampleCluster image s).nodeOf pod.name) = .ok [sampleNode] := rfl
  obtain ⟨incoming, known⟩ : ∃ incoming, (sampleCluster image s).incomingNodes?
      (Generation.find? u.currentGeneration (sampleGenerations firstReady secondReady))
      (sampleArrival image name firstReady secondReady pod s now).status.nodes = some incoming := by
    rw [current]
    cases secondReady <;> exact ⟨_, rfl⟩
  have drained : EvacuationPlan.choose sampleNode 1
      ([drainedNode].filter fun e => [sampleNode].contains e.node) incoming = .scaleDown (1 - 1) := by
    have listed : ([drainedNode].filter fun e => [sampleNode].contains e.node) = [drainedNode] := by
      decide +kernel
    have first : [drainedNode].find? (·.node == sampleNode) = some drainedNode := by decide +kernel
    rw [listed, EvacuationPlan.choose, first]
    exact if_pos (by decide)
  have payload : drainedReport.payload ManagementRequest.loadStatus.path = .ok drainedReport.document? :=
    Response.payload_of_document drainedReport_reads.1 rfl
  have decoded : Response.decode ManagementRequest.loadStatus.path LoadReport.ofReport?
      drainedReport.document? = .ok ⟨[drainedNode], []⟩ :=
    Response.decode_of_read drainedReport_reads.2
  exact Cluster.evacuationStep_shrinks place recorded rfl elapsed rfl found
    (lastReplica?_sample firstReady) aim named known payload decoded drained reply

end BrokerFleet
