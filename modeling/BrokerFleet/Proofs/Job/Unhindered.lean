import BrokerFleet.Pass.Job
import BrokerFleet.Proofs.Pass.Unhindered

/-!
Passes over a job that nothing stands in the way of. A job that may start has its run started, or takes over the one
that the broker lists, and comes to have its status written, which may still fail.
-/

namespace BrokerFleet

open Kubernetes Attempt

def Call.Keeps : Call → Prop
  | .listJobs _ => False
  | .write .. => False
  | _ => True

def Call.Aside : Call → Prop
  | .clock => True
  | .tell _ => True
  | _ => False

theorem Call.Aside.unwritten {c : Call} (aside : c.Aside) (ns : String) (w : Write) : c ≠ .write ns w := by
  rintro rfl
  exact aside

namespace Job

variable {j : Job} {c : Cluster} {pace : JobPace} {ns : String} {jobs : List Job} {secret : Secret}
  {credentials : Credentials} {client : ManagementClient} {now : Instant} {status : JobStatus}
  {log : List Exchange} {r : Except Failure Action} {node : String} {peer : Endpoint} {report : LoadReport}
  {response accepted : Response} {document answer : Option Json}

def looksAround (j : Job) (ns : String) (c : Cluster) (jobs : List Job) : List Exchange :=
  [⟨.getCluster ns j.spec.instanceName, .ok c⟩, ⟨.listJobs ns, .ok jobs⟩]

theorem drive_onCluster {step : Precheck} {next : JobPace → Cluster → ManagementClient → Instant → Pass Action}
    (place : j.placed = .ok ns) (decided : j.precheck (some c) jobs = .ok step)
    (goes : step = .start ∧ next = j.begin ∨ step = .poll ∧ next = j.poll)
    (home : c.placed = .ok ns) (signed : c.credentialsOf secret = .ok credentials)
    (ends : (next pace c ⟨credentials, c.dashboardPort⟩ now).Ends log r) :
    (j.drive pace).Ends (j.looksAround ns c jobs ++ ⟨.getSecret ns c.secretName, .ok secret⟩ :: ⟨.clock, now⟩ :: log)
      r := by
  have signs : (Pass.access c.signIn).Ends [⟨.getSecret ns c.secretName, .ok secret⟩]
      (.ok ⟨credentials, c.dashboardPort⟩) :=
    ends_mapFailure.mpr ⟨_, Cluster.signIn_succeeds home signed, rfl⟩
  have follows : (drive.onCluster j pace (some c) next).Ends
      (⟨.getSecret ns c.secretName, .ok secret⟩ :: ⟨.clock, now⟩ :: log) r := by
    unfold drive.onCluster
    refine ends_bind.mpr (.inr ⟨_, [_], ⟨.clock, now⟩ :: log, rfl, signs, ?_⟩)
    exact ends_now_bind.mpr ⟨now, _, rfl, ends⟩
  unfold drive Pass.object Job.decided
  rw [place]
  refine ends_ofExcept_bind.mpr (.inr ⟨ns, rfl, ?_⟩)
  refine ends_call_bind.mpr ⟨.ok c, _, rfl, ?_⟩
  refine ends_ofExcept_bind.mpr (.inr ⟨some c, rfl, ?_⟩)
  refine ends_call_bind.mpr ⟨.ok jobs, _, rfl, ?_⟩
  refine ends_ofExcept_bind.mpr (.inr ⟨jobs, rfl, ?_⟩)
  refine ends_ofExcept_bind.mpr (.inr ⟨step, decided, ?_⟩)
  rcases goes with ⟨rfl, rfl⟩ | ⟨rfl, rfl⟩ <;> exact follows

theorem differs_of_phase (apart : j.phase? ≠ status.phase) : j.status ≠ some status := by
  intro same
  apply apart
  simp [phase?, same]

theorem writeStatus_comes (place : j.placed = .ok ns) (differs : j.status ≠ some status)
    (reply : Except ApiError Unit) :
    (j.writeStatus status).Ends [⟨.write ns (.jobStatus j.name status), reply⟩]
      (reply.mapError fun e => .access (.api e)) := by
  unfold writeStatus Pass.object
  rw [if_neg (by simpa using differs), place]
  refine ends_ofExcept_bind.mpr (.inr ⟨ns, rfl, ?_⟩)
  exact ends_call_bind.mpr ⟨reply, [], rfl, ends_ofExcept.mpr ⟨rfl, rfl⟩⟩

theorem ends_after_writeStatus (place : j.placed = .ok ns) (differs : j.status ≠ some status)
    (reply : Except ApiError Unit) (next : Unit → Pass Action) {told : List Exchange} {action : Action}
    (aside : ∀ x ∈ told, x.call.Aside) (goes : (next ()).Ends told (.ok action)) :
    ∃ rest r, (∀ x ∈ rest, x.call.Aside) ∧ (∀ e, r = .error e → e.classify ≠ .precondition) ∧
      (j.writeStatus status >>= next).Ends (⟨.write ns (.jobStatus j.name status), reply⟩ :: rest) r := by
  have writes := writeStatus_comes place differs reply
  cases reply with
  | ok _ => exact ⟨told, .ok action, aside, fun _ failed => (nomatch failed),
      ends_bind.mpr (.inr ⟨(), _, told, rfl, writes, goes⟩)⟩
  | error e =>
      refine ⟨[], .error (.access (.api e)), List.forall_mem_nil _, ?_, ends_bind.mpr (.inl ⟨_, writes, rfl⟩)⟩
      rintro _ ⟨⟩ precondition
      cases precondition

theorem begin_starts (j : Job) (pace : JobPace) (client : ManagementClient) (now : Instant)
    (place : j.placed = .ok ns) (coordinated : c.coordinator none = .ok (node, peer))
    (payload : response.payload ManagementRequest.loadStatus.path = .ok document)
    (decoded : Response.decode ManagementRequest.loadStatus.path LoadReport.ofReport? document = .ok report)
    (idle : report.rebalances = []) {order : RebalanceOrder}
    (ordered : j.order (c.statusNodes.map (·.name)) = .ok order)
    (sendable : Net.Target.pathFault? (ManagementRequest.startRebalance node order).path = none)
    (taken : accepted.payload (ManagementRequest.startRebalance node order).path = .ok answer)
    (differs : j.status ≠ some (j.currentStatus.markProcessing now)) (reply : Except ApiError Unit) :
    ∃ rest r, (∀ x ∈ rest, x.call.Aside) ∧ (∀ e, r = .error e → e.classify ≠ .precondition) ∧
      (j.begin pace c client now).Ends (⟨.send peer client.port client.credentials .loadStatus, .ok response⟩ ::
        ⟨.send peer client.port client.credentials (.startRebalance node order), .ok accepted⟩ ::
        ⟨.write ns (.jobStatus j.name (j.currentStatus.markProcessing now)), reply⟩ :: rest) r := by
  have asked := ManagementClient.ask_succeeds client peer pathFault?_loadStatus payload decoded
  have given := ManagementClient.order_succeeds client peer sendable taken
  have none : j.currentStatus.adopt? report.rebalances now = none := by
    rw [idle]
    rfl
  obtain ⟨rest, r, aside, lasting, writes⟩ := ends_after_writeStatus place differs reply
    (fun _ => do
      Attempt.tell .normal "RebalanceStarted" ("Started rebalance on cluster " ++ j.spec.instanceName)
      return Requeue.action pace.steady (.retryAfter pace.retry))
    (by simp [Call.Aside]) (ends_tell_bind.mpr ⟨[], rfl, .done _⟩)
  refine ⟨rest, r, aside, lasting, ?_⟩
  unfold begin Job.decided
  refine ends_ofExcept_bind.mpr (.inr ⟨(node, peer), coordinated, ?_⟩)
  refine ends_bind.mpr (.inr ⟨report, _, _, rfl, ends_mapFailure.mpr ⟨_, asked, rfl⟩, ?_⟩)
  rw [none]
  refine ends_ofExcept_bind.mpr (.inr ⟨order, ordered, ?_⟩)
  exact ends_bind.mpr (.inr ⟨(), _, _, rfl, ends_mapFailure.mpr ⟨_, given, rfl⟩, writes⟩)

theorem begin_adopts (j : Job) (pace : JobPace) (client : ManagementClient) {now : Instant}
    (place : j.placed = .ok ns) (coordinated : c.coordinator none = .ok (node, peer))
    (payload : response.payload ManagementRequest.loadStatus.path = .ok document)
    (decoded : Response.decode ManagementRequest.loadStatus.path LoadReport.ofReport? document = .ok report)
    (adopted : j.currentStatus.adopt? report.rebalances now = some status) (differs : j.status ≠ some status)
    (reply : Except ApiError Unit) :
    ∃ rest r, (∀ x ∈ rest, x.call.Aside) ∧ (∀ e, r = .error e → e.classify ≠ .precondition) ∧
      (j.begin pace c client now).Ends (⟨.send peer client.port client.credentials .loadStatus, .ok response⟩ ::
        ⟨.write ns (.jobStatus j.name status), reply⟩ :: rest) r := by
  have asked := ManagementClient.ask_succeeds client peer pathFault?_loadStatus payload decoded
  obtain ⟨rest, r, aside, lasting, writes⟩ := ends_after_writeStatus place differs reply
    (fun _ => return Requeue.action pace.steady (.retryAfter pace.retry)) (List.forall_mem_nil _) (.done _)
  refine ⟨rest, r, aside, lasting, ?_⟩
  unfold begin Job.decided
  refine ends_ofExcept_bind.mpr (.inr ⟨(node, peer), coordinated, ?_⟩)
  refine ends_bind.mpr (.inr ⟨report, _, _, rfl, ends_mapFailure.mpr ⟨_, asked, rfl⟩, ?_⟩)
  rw [adopted]
  exact writes

theorem poll_follows (j : Job) (pace : JobPace) (client : ManagementClient) (now : Instant)
    (place : j.placed = .ok ns) (coordinated : c.coordinator none = .ok (node, peer))
    (payload : response.payload ManagementRequest.loadStatus.path = .ok document)
    (decoded : Response.decode ManagementRequest.loadStatus.path LoadReport.ofReport? document = .ok report)
    (differs : j.status ≠ some (j.currentStatus.follow report.rebalances now).1) (reply : Except ApiError Unit) :
    ∃ rest r, (∀ x ∈ rest, x.call.Aside) ∧ (∀ e, r = .error e → e.classify ≠ .precondition) ∧
      (j.poll pace c client now).Ends (⟨.send peer client.port client.credentials .loadStatus, .ok response⟩ ::
        ⟨.write ns (.jobStatus j.name (j.currentStatus.follow report.rebalances now).1), reply⟩ :: rest) r := by
  have asked := ManagementClient.ask_succeeds client peer pathFault?_loadStatus payload decoded
  obtain ⟨told, action, around, tells⟩ : ∃ told action, (∀ x ∈ told, x.call.Aside) ∧ Ends (do
      if (j.currentStatus.follow report.rebalances now).2 then
        Attempt.tell .normal "RebalanceCompleted" ("Rebalance of cluster " ++ j.spec.instanceName ++ " completed")
        return .await
      return Requeue.action pace.steady .steady : Pass Action) told (.ok action) := by
    cases (j.currentStatus.follow report.rebalances now).2 with
    | true => exact ⟨[_], .await, by simp [Call.Aside], ends_tell_bind.mpr ⟨[], rfl, .done _⟩⟩
    | false => exact ⟨[], _, List.forall_mem_nil _, .done _⟩
  obtain ⟨rest, r, aside, lasting, writes⟩ := ends_after_writeStatus place differs reply (fun _ => _) around tells
  refine ⟨rest, r, aside, lasting, ?_⟩
  unfold poll Job.decided
  refine ends_ofExcept_bind.mpr (.inr ⟨(node, peer), coordinated, ?_⟩)
  exact ends_bind.mpr (.inr ⟨report, _, _, rfl, ends_mapFailure.mpr ⟨_, asked, rfl⟩, writes⟩)

theorem poll_fails (j : Job) (pace : JobPace) (client : ManagementClient) (now : Instant) {e : ManagementFailure}
    (coordinated : c.coordinator none = .ok (node, peer))
    (refused : response.payload ManagementRequest.loadStatus.path = .error e) :
    (j.poll pace c client now).Ends [⟨.send peer client.port client.credentials .loadStatus, .ok response⟩]
      (.error (.management e)) := by
  have asked := ManagementClient.ask_refused client peer LoadReport.ofReport? pathFault?_loadStatus refused
  unfold poll Job.decided
  refine ends_ofExcept_bind.mpr (.inr ⟨(node, peer), coordinated, ?_⟩)
  exact ends_bind.mpr (.inl ⟨_, ends_mapFailure.mpr ⟨_, asked, rfl⟩, rfl⟩)

theorem pass_drives (place : j.placed = .ok ns) (stage : j.stage = .apply) (drives : (j.drive pace).Ends log r)
    (lasting : ∀ e, r = .error e → e.classify ≠ .precondition) :
    ∃ rest r', (∀ x ∈ rest, x.call.Aside) ∧ (j.pass pace).Ends (log ++ rest) r' := by
  obtain ⟨rest, result, aside, applies⟩ : ∃ rest result, (∀ x ∈ rest, x.call.Aside) ∧
      (j.apply pace).Ends (log ++ rest) result := by
    cases r with
    | ok action =>
        exact ⟨[], .ok action, List.forall_mem_nil _, ends_outcome_bind.mpr ⟨_, log, [], rfl, drives, .done _⟩⟩
    | error e =>
        refine ⟨[⟨.clock, default⟩], .error e, by simp [Call.Aside], ?_⟩
        refine ends_outcome_bind.mpr ⟨_, log, _, rfl, drives, ?_⟩
        refine ends_now_bind.mpr ⟨default, [], rfl, ?_⟩
        have unsettled : j.settled? e default = none := if_neg (lasting e rfl)
        rw [unsettled]
        exact .done _
  refine ⟨rest, result.mapError .applying, aside, ?_⟩
  unfold pass Pass.object
  rw [place]
  refine ends_ofExcept_bind.mpr (.inr ⟨ns, rfl, ?_⟩)
  rw [stage]
  exact ends_mapFailure.mpr ⟨result, applies, rfl⟩

theorem pass_ends_failed (place : j.placed = .ok ns) (stage : j.stage = .apply) {e : Failure}
    (drives : (j.drive pace).Ends log (.error e)) (settled : j.settled? e now = some status)
    (differs : j.status ≠ some status) : (j.pass pace).Ends
      (log ++ [⟨.clock, now⟩, ⟨.write ns (.jobStatus j.name status), .ok ()⟩,
        ⟨.tell ⟨.warning, "RebalanceFailed", e.message⟩, ()⟩]) (.ok .await) := by
  have writes := writeStatus_comes place differs (.ok ())
  have applies : (j.apply pace).Ends (log ++ [⟨.clock, now⟩, ⟨.write ns (.jobStatus j.name status), .ok ()⟩,
      ⟨.tell ⟨.warning, "RebalanceFailed", e.message⟩, ()⟩]) (.ok .await) := by
    refine ends_outcome_bind.mpr ⟨.error e, log, _, rfl, drives, ?_⟩
    refine ends_now_bind.mpr ⟨now, _, rfl, ?_⟩
    rw [settled]
    refine ends_bind.mpr (.inr ⟨(), [_], _, rfl, writes, ?_⟩)
    exact ends_tell_bind.mpr ⟨[], rfl, .done _⟩
  unfold pass Pass.object
  rw [place]
  refine ends_ofExcept_bind.mpr (.inr ⟨ns, rfl, ?_⟩)
  rw [stage]
  exact ends_mapFailure.mpr ⟨.ok .await, applies, rfl⟩

theorem pass_fails (place : j.placed = .ok ns) (stage : j.stage = .apply) {looked : Except ApiError Cluster}
    {cluster : Option Cluster} (shown : ApiError.orMissing looked = .ok cluster) (jobs : List Job) {e : Failure}
    (fails : j.precheck cluster jobs = .error e) (settled : j.settled? e now = some status)
    (differs : j.status ≠ some status) : ∃ rest r, (∀ x ∈ rest, x.call.Aside) ∧ (j.pass pace).Ends
      ([⟨.getCluster ns j.spec.instanceName, looked⟩, ⟨.listJobs ns, .ok jobs⟩, ⟨.clock, now⟩] ++
        ⟨.write ns (.jobStatus j.name status), .ok ()⟩ :: rest) r := by
  have drives : (j.drive pace).Ends [⟨.getCluster ns j.spec.instanceName, looked⟩, ⟨.listJobs ns, .ok jobs⟩]
      (.error e) := by
    unfold drive Pass.object Pass.optional Pass.api Job.decided
    rw [place]
    refine ends_ofExcept_bind.mpr (.inr ⟨ns, rfl, ?_⟩)
    refine ends_call_bind.mpr ⟨looked, _, rfl, ?_⟩
    refine ends_ofExcept_bind.mpr (.inr ⟨cluster, shown, ?_⟩)
    refine ends_call_bind.mpr ⟨.ok jobs, _, rfl, ?_⟩
    refine ends_ofExcept_bind.mpr (.inr ⟨jobs, rfl, ?_⟩)
    exact ends_ofExcept_bind.mpr (.inl ⟨e, fails, rfl, rfl⟩)
  exact ⟨[_], .ok .await, by simp [Call.Aside], pass_ends_failed place stage drives settled differs⟩

/-! ### Letting go of a job -/

theorem cleanUp_idle (quiet : j.phase? ≠ some .processing) : (j.cleanUp pace).Ends [] (.ok .await) := by
  unfold cleanUp
  rw [if_pos quiet]
  exact .done _

theorem stop_succeeds (home : c.placed = .ok ns) (signed : c.credentialsOf secret = .ok credentials)
    (coordinated : c.coordinator j.recordedCoordinator? = .ok (node, peer))
    (sendable : Net.Target.pathFault? (ManagementRequest.stopRebalance node).path = none)
    (taken : accepted.payload (ManagementRequest.stopRebalance node).path = .ok answer) :
    (j.stop c).Ends [⟨.getSecret ns c.secretName, .ok secret⟩,
      ⟨.send peer c.dashboardPort credentials (.stopRebalance node), .ok accepted⟩] (.ok ()) := by
  have signs : (Pass.access c.signIn).Ends [⟨.getSecret ns c.secretName, .ok secret⟩]
      (.ok ⟨credentials, c.dashboardPort⟩) :=
    ends_mapFailure.mpr ⟨_, Cluster.signIn_succeeds home signed, rfl⟩
  have given := ManagementClient.order_succeeds ⟨credentials, c.dashboardPort⟩ peer sendable taken
  unfold stop Job.decided
  refine ends_bind.mpr (.inr ⟨_, [_], _, rfl, signs, ?_⟩)
  refine ends_ofExcept_bind.mpr (.inr ⟨(node, peer), coordinated, ?_⟩)
  exact ends_mapFailure.mpr ⟨_, given, rfl⟩

theorem cleanUp_stops (processing : j.phase? = some .processing) (due : j.stopDeferral? now = none)
    (place : j.placed = .ok ns) {part : List Exchange} (stops : (j.stop c).Ends part (.ok ())) :
    (j.cleanUp pace).Ends (⟨.clock, now⟩ :: ⟨.getCluster ns j.spec.instanceName, .ok c⟩ :: part) (.ok .await) := by
  unfold cleanUp Pass.object
  rw [if_neg (not_not_intro processing), place]
  refine ends_now_bind.mpr ⟨now, _, rfl, ?_⟩
  rw [due]
  refine ends_ofExcept_bind.mpr (.inr ⟨ns, rfl, ?_⟩)
  refine ends_call_bind.mpr ⟨.ok c, _, rfl, ?_⟩
  refine ends_ofExcept_bind.mpr (.inr ⟨some c, rfl, ?_⟩)
  exact ends_outcome_bind.mpr ⟨.ok (), part, [], (List.append_nil part).symm, stops, .done _⟩

theorem cleanUp_gives_up (processing : j.phase? = some .processing) (due : j.stopDeferral? now = none)
    (place : j.placed = .ok ns) {part : List Exchange} {e : Failure} (fails : (j.stop c).Ends part (.error e))
    (often : pace.stopLimit ≤ j.nextAttempt) : ∃ event, (j.cleanUp pace).Ends
      (⟨.clock, now⟩ :: ⟨.getCluster ns j.spec.instanceName, .ok c⟩ :: (part ++ [⟨.tell event, ()⟩])) (.ok .await) := by
  refine ⟨⟨.warning, "RebalanceStopAbandoned", "Could not stop rebalance after " ++ toString j.nextAttempt ++
    " attempts: " ++ e.message⟩, ?_⟩
  unfold cleanUp Pass.object stopFailed
  rw [if_neg (not_not_intro processing), place]
  refine ends_now_bind.mpr ⟨now, _, rfl, ?_⟩
  rw [due]
  refine ends_ofExcept_bind.mpr (.inr ⟨ns, rfl, ?_⟩)
  refine ends_call_bind.mpr ⟨.ok c, _, rfl, ?_⟩
  refine ends_ofExcept_bind.mpr (.inr ⟨some c, rfl, ?_⟩)
  refine ends_outcome_bind.mpr ⟨.error e, part, _, rfl, fails, ?_⟩
  dsimp only
  rw [if_pos often]
  exact ends_tell_bind.mpr ⟨[], rfl, .done _⟩

theorem pass_releases (place : j.placed = .ok ns) {index : Nat} (stage : j.stage = .cleanUp index) {name : String}
    (named : j.metadata.name = some name) {action : Action} (cleans : (j.cleanUp pace).Ends log (.ok action)) :
    (j.pass pace).Ends (log ++ [⟨.write ns (.editFinalizers name (finalizerRemoved index)), .ok ()⟩])
      (.ok action) := by
  unfold pass Pass.object editFinalizers
  rw [place]
  refine ends_ofExcept_bind.mpr (.inr ⟨ns, rfl, ?_⟩)
  rw [stage, named]
  refine ends_bind.mpr (.inr ⟨action, log, _, rfl, ends_mapFailure.mpr ⟨_, cleans, rfl⟩, ?_⟩)
  exact .ask _ (.done _)

end Job

def sampleJob (name : String) (status : Option JobStatus) : Job where
  metadata :=
    ⟨some name, none, some "default", none, none, none, none, none, some [rebalanceFinalizer], none, none, []⟩
  spec := ⟨"broker", ⟨10, 10, none, none, none, none, none, none⟩⟩
  status

def runningCluster : Cluster :=
  sampleCluster "broker:1" { ClusterStatus.initial with
    conditions := [.new Condition.running true "" ""]
    nodes := [⟨sampleNode, "running", "", "", none, none⟩] }

def samplePeer : Endpoint :=
  ⟨"default", "broker-first-0", runningCluster.hostOf "default" "broker-first-0"⟩

def sampleOrder : RebalanceOrder :=
  ⟨10, 10, none, none, none, none, none, none, [sampleNode]⟩

def plainAnswer : Response where
  status := 200
  body := Text.Utf8.encode "\x7b\x7d"

def sampleRun : RebalanceState := ⟨"evicting_conns", sampleNode, [], [], 0, 0⟩

def busyReport : Response where
  status := 200
  body := Text.Utf8.encode ("\x7b\"rebalances\":[\x7b\"state\":\"evicting_conns\",\"coordinator_node\":\"" ++
    sampleNode ++ "\"\x7d]\x7d")

theorem plainAnswer_reads : plainAnswer.document?.bind Response.refusal? = none ∧
    LoadReport.ofReport? (plainAnswer.document?.getD .null) = some ⟨[], []⟩ := by
  decide +kernel

theorem plainAnswer_payload (path : String) : plainAnswer.payload path = .ok plainAnswer.document? :=
  Response.payload_of_document plainAnswer_reads.1 rfl

theorem plainAnswer_decoded : Response.decode ManagementRequest.loadStatus.path LoadReport.ofReport?
    plainAnswer.document? = .ok ⟨[], []⟩ :=
  Response.decode_of_read plainAnswer_reads.2

theorem busyReport_reads : busyReport.document?.bind Response.refusal? = none ∧
    LoadReport.ofReport? (busyReport.document?.getD .null) = some ⟨[], [sampleRun]⟩ := by
  decide +kernel

theorem coordinator_sample : runningCluster.coordinator none = .ok (sampleNode, samplePeer) := by
  decide +kernel

theorem precheck_sample {name : String} {jobs : List Job} (free : (sampleJob name none).rival? jobs = none) :
    (sampleJob name none).precheck (some runningCluster) jobs = .ok .start := by
  unfold Job.precheck
  rw [free]
  rfl

def sampleStart (now : Instant) : List Exchange :=
  [⟨.getSecret "default" runningCluster.secretName, .ok sampleSecret⟩, ⟨.clock, now⟩,
    ⟨.send samplePeer 18083 ⟨"user", "key"⟩ .loadStatus, .ok plainAnswer⟩,
    ⟨.send samplePeer 18083 ⟨"user", "key"⟩ (.startRebalance sampleNode sampleOrder), .ok plainAnswer⟩]

def sampleTakeover (now : Instant) : List Exchange :=
  [⟨.getSecret "default" runningCluster.secretName, .ok sampleSecret⟩, ⟨.clock, now⟩,
    ⟨.send samplePeer 18083 ⟨"user", "key"⟩ .loadStatus, .ok busyReport⟩]

theorem sampleStart_keeps (now : Instant) : ∀ x ∈ sampleStart now, x.call.Keeps := by
  simp [sampleStart, Call.Keeps]

theorem sampleTakeover_keeps (now : Instant) : ∀ x ∈ sampleTakeover now, x.call.Keeps := by
  simp [sampleTakeover, Call.Keeps]

theorem sampleJob_starts (pace : JobPace) (now : Instant) {name : String} {jobs : List Job}
    (free : (sampleJob name none).rival? jobs = none) (reply : Except ApiError Unit) :
    ∃ rest r, (∀ x ∈ rest, x.call.Aside) ∧ ((sampleJob name none).pass pace).Ends
      ((sampleJob name none).looksAround "default" runningCluster jobs ++ (sampleStart now ++
        ⟨.write "default" (.jobStatus name (JobStatus.initial.markProcessing now)), reply⟩ :: rest)) r := by
  have ordered : (sampleJob name none).order (runningCluster.statusNodes.map (·.name)) = .ok sampleOrder := rfl
  have sendable : Net.Target.pathFault? (ManagementRequest.startRebalance sampleNode sampleOrder).path = none := by
    decide +kernel
  obtain ⟨more, came, aside, lasting, begins⟩ := Job.begin_starts (sampleJob name none) pace ⟨⟨"user", "key"⟩, 18083⟩
    now rfl coordinator_sample (plainAnswer_payload _) plainAnswer_decoded rfl ordered sendable (plainAnswer_payload _)
    nofun reply
  obtain ⟨rest, r, quiet, passes⟩ := Job.pass_drives rfl rfl
    (Job.drive_onCluster rfl (precheck_sample free) (.inl ⟨rfl, rfl⟩) rfl credentialsOf_sample begins) lasting
  refine ⟨more ++ rest, r, fun x member => (List.mem_append.mp member).elim (aside x) (quiet x), ?_⟩
  exact passes

theorem sampleJob_adopts (pace : JobPace) (now : Instant) {name : String} {jobs : List Job}
    (free : (sampleJob name none).rival? jobs = none) (reply : Except ApiError Unit) :
    ∃ rest r status, status.phase = some .processing ∧ (∀ x ∈ rest, x.call.Aside) ∧
      ((sampleJob name none).pass pace).Ends ((sampleJob name none).looksAround "default" runningCluster jobs ++
        (sampleTakeover now ++ ⟨.write "default" (.jobStatus name status), reply⟩ :: rest)) r := by
  have payload : busyReport.payload ManagementRequest.loadStatus.path = .ok busyReport.document? :=
    Response.payload_of_document busyReport_reads.1 rfl
  have decoded : Response.decode ManagementRequest.loadStatus.path LoadReport.ofReport? busyReport.document? =
      .ok ⟨[], [sampleRun]⟩ := Response.decode_of_read busyReport_reads.2
  obtain ⟨more, came, aside, lasting, begins⟩ := Job.begin_adopts (sampleJob name none) pace ⟨⟨"user", "key"⟩, 18083⟩
    rfl coordinator_sample payload decoded (show _ = some _ from rfl) nofun reply
  obtain ⟨rest, r, quiet, passes⟩ := Job.pass_drives rfl rfl
    (Job.drive_onCluster rfl (precheck_sample free) (.inl ⟨rfl, rfl⟩) rfl credentialsOf_sample begins) lasting
  exact ⟨more ++ rest, r, _, rfl, fun x member => (List.mem_append.mp member).elim (aside x) (quiet x), passes⟩

end BrokerFleet
