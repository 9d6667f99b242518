import BrokerFleet.Proofs.Json.Statuses
import BrokerFleet.Proofs.Lifecycle.Stability
import BrokerFleet.Proofs.Quiescence.Runs

/-!
Passes that come to rest. A pass that came through leaves the cluster and its objects so that the next one takes the
same steps, comes to the status that is stored, and writes nothing; for this the stored status may have no two
conditions of one type.
-/

namespace BrokerFleet

open Kubernetes Attempt Rehearsal

namespace Cluster

variable {c c' latest : Cluster} {pace : Pace} {p q : ClusterPass} {w after : Surroundings} {log : List Exchange}
  {ns : String}

/-- By these exchanges, steps that no failure ends do not halt the pass over the cluster, and the generations that they
collect are not live but for one. -/
structure Proceeds (latest : Cluster) (pace : Pace) (log : List Exchange) : Prop where
  onward : ∀ steps q, steps <+: log →
    (latest.runSteps pace Step.all (.start (latest.status.getD .initial))).Yields steps (q, none) → q.halted = false
  single : ∀ steps p, steps <+: log →
    latest.Reaches pace [.initResources, .generations] (.start (latest.status.getD .initial)) steps p →
    (Generation.live p.generations).length ≤ 1

theorem Reaches.proceeds {first whole : List Exchange}
    (came : latest.Reaches pace Step.all (.start (latest.status.getD .initial)) log q) (within : log <+: whole)
    (collects : latest.Reaches pace [.initResources, .generations] (.start (latest.status.getD .initial)) first p)
    (front : first <+: whole) (single : (Generation.live p.generations).length ≤ 1) : latest.Proceeds pace whole where
  onward steps' q' within' run := by
    obtain ⟨-, same⟩ := came.1.agree run within within'
    cases same
    exact came.2
  single steps' p' within' reaches := by
    obtain ⟨-, same⟩ := collects.1.agree reaches.1 front within'
    cases same
    exact single

theorem Stores.leaves {status : ClusterStatus} (stores : latest.Stores status log (.ok ())) (along : w.Along log after)
    (place : latest.placed = .ok ns) (found : w.clusters ns latest.name = some latest) :
    after = { w with clusters := after.clusters } ∧
      after.clusters ns latest.name = some { latest with status := some status } := by
  generalize ended : (Except.ok () : Except Failure Unit) = r at stores
  cases stores with
  | same has =>
      obtain rfl := Surroundings.along_nil.mp along
      exact ⟨rfl, has ▸ found⟩
  | unplaced other nowhere => cases ended
  | asked reply other place' =>
      cases place.symm.trans place'
      obtain ⟨_, wrote, last⟩ := Surroundings.along_cons.mp along
      obtain rfl := Surroundings.along_nil.mp last
      rcases wrote with ⟨c, known, there, read, -, rfl⟩ | ⟨missing, -, -⟩
      · cases found.symm.trans there
        cases (ofJson?_toJson status).symm.trans read
        exact ⟨rfl, Surroundings.stored_self⟩
      · rw [found] at missing
        cases missing

theorem passOver_again {action : Action} (sound : w.Sound) (place : latest.placed = .ok ns)
    (found : w.clusters ns latest.name = some latest) (distinct : (latest.status.getD .initial).conditions.Distinct)
    (concludes : latest.Concludes pace log (.ok action)) (proceeds : latest.Proceeds pace log)
    (along : w.Along log after) : ∃ status, after.clusters ns latest.name = some { latest with status := some status } ∧
      ({ latest with status := some status }.passOver pace).LeadsTo after (.ok action) := by
  cases concludes with
  | @done steps rest q now run stores =>
      have came : latest.Reaches pace Step.all (.start (latest.status.getD .initial)) steps q :=
        ⟨run, proceeds.onward steps q (List.prefix_append ..) run⟩
      obtain ⟨w₁, before, later⟩ := Surroundings.along_append.mp along
      obtain ⟨w₂, still, last⟩ := Surroundings.along_cons.mp later
      obtain rfl : w₂ = w₁ := still
      have clusters : w.Same w₂ .cluster := came.same before (by decide)
      obtain ⟨left, stored⟩ := stores.leaves last place ((congrFun₂ clusters ns latest.name).trans found)
      obtain ⟨q', retakes, same, requeue⟩ := steps_again sound distinct came before
        (fun first p front => proceeds.single first p (front.trans (List.prefix_append ..))) now after.clusters
      rw [← left] at retakes
      refine ⟨_, stored, leadsTo_lift_bind retakes.leadsTo (leadsTo_now_bind fun later => ?_)⟩
      have settled : latest.settled q' none later = latest.settled q none now := settled_again same requeue
      have kept : ({ latest with status := some (latest.settled q none now) }.writeStatus
          (latest.settled q' none later)).LeadsTo after (.ok ()) := by
        unfold writeStatus
        rw [if_pos (by rw [settled]; exact beq_self_eq_true _)]
        exact leadsTo_pure
      refine leadsTo_outcome_bind kept ?_
      rw [← requeue]
      exact leadsTo_pure

/-- If a pass came through without a halt and with no more than one live generation, then the next one, at whatever
time, comes through with the same answer, and it is all that can come of it; it changes nothing, and neither writes a
status or a StatefulSet nor asks about an evacuation. -/
theorem pass_rests_after_pass {action : Action} (sound : w.Sound)
    (ends : (c.pass pace).Ends (⟨.getCluster ns c.name, .ok latest⟩ :: log) (.ok action))
    (along : w.Along (⟨.getCluster ns c.name, .ok latest⟩ :: log) after) (proceeds : latest.Proceeds pace log)
    (distinct : (latest.status.getD .initial).conditions.Distinct) (placed : c'.placed = c.placed)
    (named : c'.name = c.name) :
    (∃ log', (c'.pass pace).Ends log' (.ok action) ∧ after.Along log' after) ∧
      ∀ log' r final, (c'.pass pace).Ends log' r → after.Along log' final →
        r = .ok action ∧ final = after ∧ ∀ x ∈ log', ¬ x.call.Disturbs := by
  suffices rests : (c'.pass pace).LeadsTo after (.ok action) from
    ⟨Dialogue.LeadsTo.comes rests, fun log' r final ends' along' => rests.only ends' along'⟩
  obtain ⟨place, concludes⟩ := pass_ends_iff.mp ends
  obtain ⟨between, ⟨same, shown⟩, later⟩ := Surroundings.along_cons.mp along
  obtain rfl : between = w := same
  have found : between.clusters ns c.name = some latest := by
    cases there : between.clusters ns c.name with
    | none =>
        rw [there] at shown
        cases shown
    | some other =>
        rw [there] at shown
        cases shown
        rfl
  obtain ⟨known, stored, leads⟩ : ∃ known, after.clusters ns c.name = some known ∧
      LeadsTo after (if known.metadata.deleted.isSome then pure .await else known.passOver pace) (.ok action) := by
    rcases concludes with ⟨deleted, rfl, same⟩ | ⟨stays, concludes⟩
    · obtain rfl := Surroundings.along_nil.mp later
      cases same
      exact ⟨latest, found, by rw [if_pos deleted]; exact leadsTo_pure⟩
    · have name := sound.named ns c.name latest found
      obtain ⟨status, stored, leads⟩ := passOver_again sound (sound.placed ns c.name latest found)
        (name.symm ▸ found) distinct concludes proceeds later
      refine ⟨_, name ▸ stored, ?_⟩
      rw [if_neg (by rw [stays]; decide)]
      exact leads
  unfold pass
  rw [placed, named]
  refine leadsTo_ofExcept_bind place ?_
  refine leadsTo_call_bind (fun disturbs => disturbs) (Surroundings.answers_getCluster stored) ?_
  exact leadsTo_ofExcept_bind rfl leads

end Cluster

/-! ### A fleet at rest -/

abbrev calmCluster (s : ClusterStatus) : Cluster :=
  sampleCluster "broker:1" s

def gatedPod : Option Bool → Pod
  | none => samplePod "broker-first" true
  | some serving => (samplePod "broker-first" true).gated serving

def calmPod (gate : Option Bool) : StoredPod where
  name := "broker-first-0"
  object :=
    let document := podDocument "broker-first-0" "broker-first" (calmCluster .initial).labels
    match gate with
    | none => document
    | some serving => Store.mergeConditions (Write.gatePatch serving "1970-01-01T00:01:40Z") document
  shown := gatedPod gate
  reads := by
    cases gate with
    | none => rfl
    | some serving => cases serving <;> rfl
  named := by cases gate <;> rfl

def calmSurroundings (s : ClusterStatus) (gate : Option Bool) : Surroundings where
  clusters := Surroundings.stored (fun _ _ => none) "default" "broker" (calmCluster s)
  secrets := Surroundings.stored (fun _ _ => none) "default" (calmCluster s).secretName sampleSecret
  configs := {("default", (calmCluster s).configName)}
  services := {("default", (calmCluster s).headlessName)}
  sets := [firstStored]
  pods _ := [calmPod gate]
  broker _ _ _ _ := .ok ⟨200, [0x5b, 0x5d]⟩

def calmGeneration (gate : Option Bool) : Generation :=
  ⟨"broker-first", sampleHash "broker:1", 1, some ⟨100, 0⟩, [.ofPod (gatedPod gate)]⟩

def calmSight (s : ClusterStatus) (gate : Option Bool) : Observation :=
  (calmCluster s).observe true [] [calmGeneration gate] (some "broker-first")

def calmStatus (s : ClusterStatus) (gate : Option Bool) (now : Instant) : ClusterStatus :=
  (ClusterStatus.recorded { s with nodes := [] } (calmSight s gate) now).finishUpdate now

def calmPass (s : ClusterStatus) (gate : Option Bool) (now : Instant) : ClusterPass :=
  { ClusterPass.collected (calmStatus s gate now) [calmGeneration gate] "broker-first" with
    link := some (sampleLink (calmCluster s) (gatedPod gate).name) }

section Sample

variable {s : ClusterStatus} {gate : Option Bool} {now : Instant}

theorem calmSurroundings_sound : (calmSurroundings s gate).Sound where
  placed ns name c found := by
    obtain ⟨rfl, -, rfl⟩ := Surroundings.eq_of_stored found
    rfl
  named ns name c found := by
    obtain ⟨-, rfl, rfl⟩ := Surroundings.eq_of_stored found
    rfl
  keyed := List.nodup_singleton _
  pods _ := List.nodup_singleton _

theorem calmSurroundings_cluster : (calmSurroundings s gate).clusters "default" "broker" = some (calmCluster s) := by
  unfold calmSurroundings
  dsimp only
  rw [Surroundings.stored_self]

theorem calmSurroundings_secret :
    (calmSurroundings s gate).secrets "default" (calmCluster s).secretName = some sampleSecret := by
  unfold calmSurroundings
  dsimp only
  rw [Surroundings.stored_self]

theorem firstStored_listing :
    SetStore.listing [firstStored] "default" (sampleCluster "broker:1" .initial).selector = [firstSet] := by
  rfl

theorem calmSurroundings_listing :
    (calmSurroundings s gate).sets.listing "default" (calmCluster s).selector = [firstSet] :=
  firstStored_listing

theorem calmPod_selected :
    Store.isSelected (sampleCluster "broker:1" .initial).selector (calmPod gate).object = true := by
  cases gate with
  | none => rfl
  | some serving => cases serving <;> rfl

theorem calmSurroundings_pods :
    (calmSurroundings s gate).podListing "default" (calmCluster s).selector = [gatedPod gate] := by
  have selected : Store.isSelected (calmCluster s).selector (calmPod gate).object = true := calmPod_selected
  have listed : (calmSurroundings s gate).pods "default" = [calmPod gate] := rfl
  rw [Surroundings.podListing, listed, List.filter_cons, selected]
  rfl

theorem collect_calm : Generation.collect [firstSet] [gatedPod gate] = [calmGeneration gate] := by
  have owned : [gatedPod gate].filter (Generation.owns "broker-first") = [gatedPod gate] := by
    cases gate <;> rfl
  have seen : Generation.ofSet? [gatedPod gate] firstSet = some (calmGeneration gate) := by
    unfold Generation.ofSet? firstSet sampleSet calmGeneration
    simp only [Option.bind_eq_bind, Option.bind_some, owned, List.map_cons, List.map_nil, List.mergeSort_singleton,
      Option.getD_some]
  simp only [Generation.collect, List.filterMap_cons, seen, List.filterMap_nil, List.mergeSort_singleton]

theorem calmGeneration_single (gate : Option Bool) : (Generation.live [calmGeneration gate]).length ≤ 1 := by
  cases gate <;> exact Nat.le_refl 1

theorem calm_collects (pace : Pace) (gate : Option Bool) (left : s.currentState ≠ .empty) :
    (calmCluster s).Retakes pace (calmSurroundings s gate) [.initResources, .generations] (.start s)
      (.collected s [calmGeneration gate] "broker-first") := by
  have provided : (calmCluster s).Provided (calmSurroundings s gate) "default" :=
    ⟨Option.isSome_iff_exists.mpr ⟨_, calmSurroundings_secret⟩, Set.mem_singleton _, Set.mem_singleton _⟩
  have resolved : (calmCluster s).resolveGeneration (sampleTemplate "broker:1" s) (Cluster.existingOf [firstSet]) =
      .ok (.adopt "broker-first" (sampleHash "broker:1")) := sample_resolves rfl
  have settles : (calmCluster s).Settles (sampleTemplate "broker:1" s) "default" "broker-first"
      (calmSurroundings s gate).sets (calmSurroundings s gate).sets := by
    have listed : (calmSurroundings s gate).sets.listing "default" (calmCluster s).selector = [firstSet] :=
      calmSurroundings_listing
    refine Cluster.settles_of_kept calmSurroundings_sound.keyed (listed.symm ▸ resolved) ?_
    rw [listed]
    rfl
  have seen : Generation.collect ((calmSurroundings s gate).sets.listing "default" (calmCluster s).selector)
      ((calmSurroundings s gate).podListing "default" (calmCluster s).selector) = [calmGeneration gate] := by
    rw [calmSurroundings_listing, calmSurroundings_pods]
    exact collect_calm
  refine ⟨_, Cluster.bootstrapStep_leadsTo left rfl provided, rfl, _, ?_, rfl, rfl⟩
  unfold ClusterPass.collected
  rw [← seen]
  exact Cluster.generationStep_leadsTo rfl sample_desired settles

theorem calm_advances (left : s.currentState ≠ .empty) :
    ClusterStatus.advance { s with nodes := [] } (calmSight s gate) now = (calmStatus s gate now, .continue) :=
  ClusterStatus.advance_of_single left rfl (calmGeneration_single gate)

theorem calm_observes (pace : Pace) (gate : Option Bool) (left : s.currentState ≠ .empty) (now : Instant) :
    ∃ log, (calmCluster s).Reaches pace [.nodes, .stateMachine, .evacuation]
        (.collected s [calmGeneration gate] "broker-first") log (calmPass s gate now) ∧
      (calmSurroundings s gate).Along log (calmSurroundings s gate) := by
  have payload : (⟨200, [0x5b, 0x5d]⟩ : Response).payload ManagementRequest.nodes.path =
      .ok (some (.array [])) := rfl
  have decoded : Response.decode ManagementRequest.nodes.path (Json.list? ClusterNode.ofReport?)
      (some (.array [])) = .ok [] := rfl
  have chosen : Generation.chooseReplica? [calmGeneration gate] (some "broker-first") =
      some (.ofPod (gatedPod gate)) := by
    cases gate with
    | none => rfl
    | some serving => cases serving <;> rfl
  have asks := Cluster.nodeStep_succeeds (c := calmCluster s)
    (p := .collected s [calmGeneration gate] "broker-first") pace rfl chosen credentialsOf_sample payload decoded
  have idle : (calmStatus s gate now).blueGreenUpdate = none := ClusterStatus.finishUpdate_idle
  have evacuates : ((calmCluster s).evacuationStep pace (calmPass s gate now)).Ends [] (.ok (calmPass s gate now)) := by
    rw [Cluster.evacuationStep_idle idle]
    exact ends_pure.mpr ⟨rfl, rfl⟩
  refine ⟨_, Cluster.reaches_cons .nodes asks rfl (Cluster.reaches_cons .stateMachine
    (Cluster.stateStep_silent pace (calm_advances left) fun _ => idle) rfl
    (Cluster.reaches_cons .evacuation evacuates rfl (Cluster.reaches_nil rfl))), ?_⟩
  refine .cons ⟨rfl, ?_⟩ (.cons ⟨rfl, rfl⟩ (.cons rfl (.nil _)))
  rw [calmSurroundings_secret]
  rfl

def Closes (gate : Option Bool) (now : Instant) : Prop :=
  ofJson? (Store.mergeConditions (Write.gatePatch false (Rfc3339.format now)) (calmPod gate).object) =
    some ((gatedPod gate).gated false)

theorem calm_closes : Closes none (sampleTime 1) := by
  rfl

theorem calm_gates (s : ClusterStatus) {gate : Option Bool} {now : Instant}
    (reads : gate ≠ some false → Closes gate now) : ∃ log after,
    ((calmCluster s).gateStep (calmPass s gate now)).Ends log (.ok (calmPass s gate now)) ∧
    (calmSurroundings s gate).Along log after ∧ after.clusters = (calmSurroundings s gate).clusters ∧
    after.broker = (calmSurroundings s gate).broker ∧ (gate = some false → after = calmSurroundings s gate) := by
  have unhashed : (Replica.ofPod (gatedPod gate)).hash = none := by
    cases gate <;> rfl
  have shown : (Replica.ofPod (gatedPod gate)).serving = gate := by
    cases gate with
    | none => rfl
    | some serving => cases serving <;> rfl
  have closed : ∀ hash, Cluster.gateOpen none hash none = false := fun _ => rfl
  have gates : ∀ {log}, ((calmCluster s).gate "default" (calmPass s gate now).link
      ((calmPass s gate now).status.currentGeneration.map (·.hash)) (.ofPod (gatedPod gate))).Ends log (.ok ()) →
      ((calmCluster s).gateStep (calmPass s gate now)).Ends log (.ok (calmPass s gate now)) := by
    intro log ends
    refine ends_ofExcept_bind.mpr (.inr ⟨"default", rfl, ?_⟩)
    refine ends_bind.mpr (.inr ⟨(), log, [], (List.append_nil log).symm, ?_, ends_pure.mpr ⟨rfl, rfl⟩⟩)
    exact ends_bind.mpr (.inr ⟨(), log, [], (List.append_nil log).symm, ends, ends_pure.mpr ⟨rfl, rfl⟩⟩)
  by_cases kept : gate = some false
  · refine ⟨[], _, gates ?_, .nil _, rfl, rfl, fun _ => rfl⟩
    unfold Cluster.gate
    rw [unhashed, shown, kept]
    exact ends_pure.mpr ⟨rfl, rfl⟩
  · let patched : Exchange :=
      ⟨.write "default" (.setServingGate (gatedPod gate).name false (Rfc3339.format now)), .ok ()⟩
    have named : (gatedPod gate).name = "broker-first-0" := (calmPod gate).named
    let pod : StoredPod := ⟨"broker-first-0", _, (gatedPod gate).gated false, reads kept, named⟩
    let after : Surroundings :=
      { calmSurroundings s gate with pods := Function.update (calmSurroundings s gate).pods "default" [pod] }
    have sets : (calmSurroundings s gate).SetsGate "default" (gatedPod gate).name false (Rfc3339.format now) after := by
      have written : pod.IsWritten (calmPod gate) (.setServingGate "broker-first-0" false (Rfc3339.format now)) :=
        ⟨rfl, rfl⟩
      refine ⟨[pod], .cons ?_ .nil, rfl⟩
      rw [named]
      exact (if_pos rfl).mpr written
    refine ⟨[⟨.clock, now⟩, patched], after, gates ?_, .cons rfl (.cons ⟨fun _ => rfl, sets⟩ (.nil _)), rfl, rfl,
      fun same => absurd same kept⟩
    unfold Cluster.gate
    rw [unhashed, shown]
    refine ends_bind.mpr (.inr ⟨none, [], _, rfl, ends_pure.mpr ⟨rfl, rfl⟩, ?_⟩)
    rw [closed, if_neg fun same => kept (beq_iff_eq.mp same)]
    exact .ask _ (.ask _ (.done _))

theorem calm_listens (s : ClusterStatus) (gate : Option Bool) (now : Instant) {w : Surroundings}
    (same : w.broker = (calmSurroundings s gate).broker) : ∃ log,
    ((calmCluster s).listenerStep (calmPass s gate now)).Ends log (.ok (calmPass s gate now)) ∧ w.Along log w := by
  let link := sampleLink (calmCluster s) (gatedPod gate).name
  have payload : (⟨200, [0x5b, 0x5d]⟩ : Response).payload ManagementRequest.listeners.path =
      .ok (some (.array [])) := rfl
  have decoded : Response.decode ManagementRequest.listeners.path FromJson.ofJson? (some (.array [])) =
      .ok ([] : List NodeListeners) := rfl
  have asks := ManagementClient.ask_succeeds link.client link.endpoint (by decide +kernel) payload decoded
  have lists : (link.client.listeners link.endpoint).Ends _ (.ok []) :=
    ends_bind.mpr (.inr ⟨_, _, _, rfl, asks, ends_pure.mpr ⟨rfl, rfl⟩⟩)
  have published : (Pass.management (link.client.listeners link.endpoint)).Ends _ (.ok []) :=
    ends_mapFailure.mpr ⟨_, lists, rfl⟩
  refine ⟨_, ends_bind.mpr (.inr ⟨_, _, [], rfl, published, ends_pure.mpr ⟨rfl, rfl⟩⟩), ?_⟩
  refine .cons ⟨rfl, ?_⟩ (.nil _)
  rw [same]
  rfl

theorem calm_stores {settled : ClusterStatus} {w : Surroundings}
    (clusters : w.clusters = (calmSurroundings s gate).clusters) : ∃ log after,
      (calmCluster s).Stores settled log (.ok ()) ∧ w.Along log after ∧
      (w = calmSurroundings s gate → after = calmSurroundings settled gate) ∧
      (settled ≠ s → ⟨.write "default" (.clusterStatus "broker" settled), .ok ()⟩ ∈ log) := by
  by_cases same : settled = s
  · subst same
    exact ⟨[], w, .same rfl, .nil _, id, fun differs => absurd rfl differs⟩
  · have found : w.clusters "default" "broker" = some (calmCluster s) := clusters ▸ calmSurroundings_cluster
    refine ⟨_, _, .asked (.ok ()) (fun has => same (Option.some.inj has).symm) rfl,
      .cons (.inl ⟨_, _, found, ofJson?_toJson settled, rfl, rfl⟩) (.nil _), fun kept => ?_,
      fun _ => List.mem_singleton_self _⟩
    subst kept
    exact congrArg (fun clusters => { calmSurroundings s gate with clusters }) Surroundings.stored_stored

/-- A pass over the sample comes through. If the gate says already what it is to say, then all that the pass leaves is
its status. -/
theorem calm_pass (gate : Option Bool) (left : s.currentState ≠ .empty) (now : Instant)
    (reads : gate ≠ some false → Closes gate now) :
    ∃ log after action settled, settled = (calmCluster s).settled (calmPass s gate now) none now ∧
      ((calmCluster s).pass default).Ends (⟨.getCluster "default" "broker", .ok (calmCluster s)⟩ :: log) (.ok action) ∧
      (calmSurroundings s gate).Along (⟨.getCluster "default" "broker", .ok (calmCluster s)⟩ :: log) after ∧
      (calmCluster s).Proceeds default log ∧ (gate = some false → after = calmSurroundings settled gate) ∧
      (settled ≠ s → ⟨.write "default" (.clusterStatus "broker" settled), .ok ()⟩ ∈ log) := by
  obtain ⟨first, collects, along₁⟩ := (calm_collects default gate left).reaches rfl
  obtain ⟨second, observes, along₂⟩ := calm_observes default gate left now
  obtain ⟨third, w, gates, along₃, clusters, broker, kept⟩ := calm_gates s reads
  obtain ⟨fourth, listens, along₄⟩ := calm_listens s gate now broker
  obtain ⟨rest, after, stores, along₅, leaves, wrote⟩ := calm_stores clusters
  have maintains : (calmCluster s).Reaches default [.readinessGates, .listeners] (calmPass s gate now)
      (third ++ (fourth ++ [])) (calmPass s gate now) := Cluster.reaches_cons .readinessGates gates rfl
    (Cluster.reaches_cons .listeners listens rfl (Cluster.reaches_nil rfl))
  rw [List.append_nil] at maintains
  have came : (calmCluster s).Reaches default Step.all (.start s) (first ++ (second ++ (third ++ fourth)))
      (calmPass s gate now) := ⟨collects.append (observes.append maintains.1), rfl⟩
  have along : (calmSurroundings s gate).Along (first ++ (second ++ (third ++ fourth))) w :=
    Surroundings.along_append.mpr ⟨_, along₁, Surroundings.along_append.mpr ⟨_, along₂,
      Surroundings.along_append.mpr ⟨_, along₃, along₄⟩⟩⟩
  refine ⟨_, after, _, _, rfl, Cluster.pass_ends_iff.mpr ⟨rfl, .inr ⟨rfl, .done came.1 stores⟩⟩, ?_, ?_,
    fun shown => leaves (kept shown), fun differs => ?_⟩
  · refine .cons ⟨rfl, ?_⟩ (Surroundings.along_append.mpr ⟨w, along, .cons rfl along₅⟩)
    rw [calmSurroundings_cluster]
    rfl
  · exact came.proceeds (List.prefix_append ..) collects ((List.prefix_append ..).trans (List.prefix_append ..))
      (calmGeneration_single gate)
  · exact List.mem_append_right _ (List.mem_cons_of_mem _ (wrote differs))

end Sample

def blankStatus : ClusterStatus :=
  { ClusterStatus.initial with currentState := .running }

/-- A pass over the sample that sets its gate and stores its status is followed by one that writes neither. -/
theorem calm_pass_rests :
    let c := calmCluster blankStatus
    let w := calmSurroundings blankStatus none
    w.Sound ∧ (c.status.getD .initial).conditions.Distinct ∧ ∃ log log' after action,
      (c.pass default).Ends (⟨.getCluster "default" c.name, .ok c⟩ :: log) (.ok action) ∧
      w.Along (⟨.getCluster "default" c.name, .ok c⟩ :: log) after ∧ c.Proceeds default log ∧
      (∃ x ∈ log, x.call.Disturbs) ∧ (c.pass default).Ends log' (.ok action) ∧ after.Along log' after ∧
      ∀ x ∈ log', ¬ x.call.Disturbs := by
  obtain ⟨log, after, action, settled, same, ends, along, proceeds, -, wrote⟩ :=
    calm_pass none (show blankStatus.currentState ≠ .empty by decide) (sampleTime 1) fun _ => calm_closes
  have stored : settled ≠ blankStatus := by
    intro unchanged
    have known : settled.conditions.Knows (Cluster.reconciledCondition none .steady) := by
      rw [same]
      exact Conditions.knows_set
    rw [unchanged] at known
    obtain ⟨a, found, -⟩ := known
    cases found
  have placed : (calmCluster blankStatus).placed = (calmCluster blankStatus).placed := rfl
  obtain ⟨⟨log', again, still⟩, only⟩ := Cluster.pass_rests_after_pass calmSurroundings_sound ends along proceeds
    List.nodup_nil placed rfl
  exact ⟨calmSurroundings_sound, List.nodup_nil, log, log', after, action, ends, along, proceeds,
    ⟨_, wrote stored, .inl rfl⟩, again, still, (only log' _ after again still).2.2⟩

def repeatedConditions : Conditions :=
  let earlier := Rfc3339.format (sampleTime 1)
  let later := Rfc3339.format (sampleTime 2)
  [⟨Condition.initResourceReady, .true, "ResourcesReady", "", earlier, earlier⟩,
    ⟨Condition.initResourceReady, .false, "", "", later, later⟩]

def repeatedStatus : ClusterStatus :=
  { ClusterStatus.initial with currentState := .running, conditions := repeatedConditions }

theorem latestFirst_repeated : repeatedConditions.latestFirst = repeatedConditions.reverse ∧
    Conditions.latestFirst repeatedConditions.reverse = repeatedConditions.reverse := by
  have later : instantLe (Rfc3339.parse? (Rfc3339.format (sampleTime 2)))
      (Rfc3339.parse? (Rfc3339.format (sampleTime 1))) = false := by decide +kernel
  have earlier : instantLe (Rfc3339.parse? (Rfc3339.format (sampleTime 1)))
      (Rfc3339.parse? (Rfc3339.format (sampleTime 2))) = true := by decide +kernel
  unfold Conditions.latestFirst repeatedConditions Condition.updated?
  simp only [List.reverse_cons, List.reverse_nil, List.nil_append, List.cons_append]
  rw [mergeSort_pair, mergeSort_pair]
  dsimp only
  rw [later, earlier]
  exact ⟨rfl, rfl⟩

theorem ofType_calm {s : ClusterStatus} {gate : Option Bool} {now : Instant} {told : Conditions}
    (recorded : ((s.conditions.set ClusterStatus.readyCondition now).set
      (ClusterStatus.runningCondition (calmSight s gate)) now).ofType Condition.initResourceReady = told)
    (sorted : told.latestFirst = told) :
    ((calmCluster s).settled (calmPass s gate now) none now).conditions.ofType Condition.initResourceReady = told := by
  have finished : (calmStatus s gate now).conditions.ofType Condition.initResourceReady = told :=
    (ClusterStatus.ofType_finishUpdate ((congrArg Conditions.latestFirst recorded).trans (sorted.trans recorded.symm))
      (by decide)).trans recorded
  refine (Conditions.ofType_set_sorted ?_ ?_).trans finished
  · exact (congrArg Conditions.latestFirst finished).trans (sorted.trans finished.symm)
  · rw [ClusterStatus.reconciledCondition_type]
    decide

theorem calm_repeated {now later : Instant} {settled : ClusterStatus}
    (same : settled = (calmCluster repeatedStatus).settled (calmPass repeatedStatus (some false) now) none now) :
    (calmCluster settled).settled (calmPass settled (some false) later) none later ≠ settled := by
  have apart : ∀ o, Condition.initResourceReady ≠ (ClusterStatus.runningCondition o).type := by
    intro o
    rw [ClusterStatus.runningCondition_type]
    decide
  have known : repeatedConditions.Knows ClusterStatus.readyCondition := ⟨_, rfl, rfl⟩
  have missing : ∀ o, ¬ repeatedConditions.Knows (ClusterStatus.runningCondition o) := by
    rintro o ⟨a, found, -⟩
    rw [ClusterStatus.runningCondition_type] at found
    cases found
  have reversed : settled.conditions.ofType Condition.initResourceReady = repeatedConditions.reverse := by
    rw [same]
    refine ofType_calm ?_ latestFirst_repeated.2
    rw [show repeatedStatus.conditions = repeatedConditions from rfl, Conditions.set_of_known known,
      Conditions.ofType_set_other (missing _) (apart _)]
    exact latestFirst_repeated.1
  have unknown : ¬ settled.conditions.Knows ClusterStatus.readyCondition := by
    rintro ⟨a, found, agrees⟩
    rw [Conditions.find?_eq_head?, show ClusterStatus.readyCondition.type = Condition.initResourceReady from rfl,
      reversed] at found
    cases found
    cases agrees
  obtain ⟨a, alone⟩ : ∃ a, (settled.conditions.set ClusterStatus.readyCondition later).ofType
      Condition.initResourceReady = [a] := Conditions.ofType_set_self unknown
  have single : Conditions.latestFirst [a] = [a] := List.mergeSort_singleton a
  have replaced : ((calmCluster settled).settled (calmPass settled (some false) later) none later).conditions.ofType
      Condition.initResourceReady = [a] :=
    ofType_calm ((Conditions.ofType_set_sorted (by rw [alone, single]) (apart _)).trans alone) single
  intro unchanged
  rw [unchanged, reversed] at replaced
  cases replaced

/-- Where the stored status has two conditions of one type, the pass after one that came through may write another
status. -/
theorem repeated_conditions_disturb :
    let c := calmCluster repeatedStatus
    let w := calmSurroundings repeatedStatus (some false)
    w.Sound ∧ ∃ log log' after final action action',
      (c.pass default).Ends (⟨.getCluster "default" c.name, .ok c⟩ :: log) (.ok action) ∧
      w.Along (⟨.getCluster "default" c.name, .ok c⟩ :: log) after ∧ c.Proceeds default log ∧
      (c.pass default).Ends log' (.ok action') ∧ after.Along log' final ∧ ∃ x ∈ log', x.call.Disturbs := by
  obtain ⟨log, after, action, settled, same, ends, along, proceeds, leaves, -⟩ :=
    calm_pass (some false) (show repeatedStatus.currentState ≠ .empty by decide) (sampleTime 3) fun differs =>
      absurd rfl differs
  cases leaves rfl
  have left : settled.currentState ≠ .empty := by
    rw [same]
    show (calmStatus repeatedStatus (some false) (sampleTime 3)).currentState ≠ .empty
    unfold calmStatus
    rw [ClusterStatus.finishUpdate_currentState]
    show repeatedStatus.currentState.next (calmSight repeatedStatus (some false)) ≠ .empty
    exact ClusterStatus.next_ne_empty
  obtain ⟨log', final, action', settled', same', ends', along', -, -, wrote⟩ :=
    calm_pass (some false) left (sampleTime 4) fun differs => absurd rfl differs
  have differs : settled' ≠ settled := same' ▸ calm_repeated same
  exact ⟨calmSurroundings_sound, log, _, _, final, action, action', ends, along, proceeds, ends', along',
    _, List.mem_cons_of_mem _ (wrote differs), .inl rfl⟩

end BrokerFleet
