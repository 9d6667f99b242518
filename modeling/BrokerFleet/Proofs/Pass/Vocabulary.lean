import BrokerFleet.Pass.Cluster
import BrokerFleet.Proofs.Exchange

/-!
What the steps of a pass may ask of the world. Each step has a vocabulary of calls, and a call outside of it
is not made, whatever the world replies: only two steps size StatefulSets, and no step writes the status of
the cluster.
-/

namespace BrokerFleet

open Kubernetes Attempt

def Step.vocabulary : Step → Call → Prop
  | .initResources, .clock => True
  | .initResources, .freshKey => True
  | .initResources, .find .. => True
  | .initResources, .tell _ => True
  | .initResources, .write _ (.createSecret _) => True
  | .initResources, .write _ (.applyConfig _) => True
  | .initResources, .write _ (.applyService _) => True
  | .generations, .listSets .. => True
  | .generations, .listPods .. => True
  | .generations, .tell _ => True
  | .generations, .write _ (.scaleGeneration ..) => True
  | .generations, .write _ (.applyGeneration _) => True
  | .nodes, .getSecret .. => True
  | .nodes, .send _ _ _ .nodes => True
  | .stateMachine, .clock => True
  | .stateMachine, .tell _ => True
  | .evacuation, .clock => True
  | .evacuation, .tell _ => True
  | .evacuation, .send _ _ _ .loadStatus => True
  | .evacuation, .send _ _ _ (.startEvacuation ..) => True
  | .evacuation, .write _ (.scaleGeneration ..) => True
  | .readinessGates, .clock => True
  | .readinessGates, .send _ _ _ .availability => True
  | .readinessGates, .write _ (.setServingGate ..) => True
  | .listeners, .send _ _ _ .listeners => True
  | .listeners, .write _ (.applyService _) => True
  | _, _ => False

variable {P : Call → Prop}

theorem Pass.write_asks {ns : String} {w : Write} (h : P (.write ns w)) : (Pass.write ns w).Asks P :=
  asks_bind (asks_call.mpr h) fun _ => asks_ofExcept

theorem Pass.isThere_asks {kind : ObjectKind} {ns name : String} (h : P (.find kind ns name)) :
    (Pass.isThere kind ns name).Asks P :=
  asks_bind (asks_call.mpr h) fun _ => asks_bind asks_ofExcept fun _ => asks_pure

namespace ManagementClient

variable {client : ManagementClient} {peer : Endpoint} {request : ManagementRequest}

theorem send_asks (h : P (.send peer client.port client.credentials request)) :
    (client.send peer request).Asks P := by
  rw [send]
  split
  · exact asks_fail
  · exact asks_bind (asks_call.mpr h) fun _ => asks_ofExcept

theorem document_asks (h : P (.send peer client.port client.credentials request)) :
    (client.document peer request).Asks P :=
  asks_bind (send_asks h) fun _ => asks_ofExcept

theorem ask_asks {α : Type} {read? : Json → Option α}
    (h : P (.send peer client.port client.credentials request)) :
    (client.ask peer request read?).Asks P :=
  asks_bind (document_asks h) fun _ => asks_ofExcept

theorem order_asks (h : P (.send peer client.port client.credentials request)) :
    (client.order peer request).Asks P :=
  asks_bind (document_asks h) fun _ => asks_pure

theorem isAvailable_asks {ε : Type}
    (h : P (.send peer client.port client.credentials .availability)) :
    (client.isAvailable peer : Attempt ε Bool).Asks P := by
  have sent : (client.send peer .availability).Asks P := by
    apply send_asks
    exact h
  unfold isAvailable
  refine asks_bind (asks_outcome sent) fun result => ?_
  cases result with
  | error e => exact asks_pure
  | ok response => exact asks_pure

theorem nodes_asks (h : P (.send peer client.port client.credentials .nodes)) :
    (client.nodes peer).Asks P := by
  apply ask_asks
  exact h

theorem loadReport_asks (h : P (.send peer client.port client.credentials .loadStatus)) :
    (client.loadReport peer).Asks P := by
  apply ask_asks
  exact h

theorem listeners_asks (h : P (.send peer client.port client.credentials .listeners)) :
    (client.listeners peer).Asks P := by
  refine asks_bind (ask_asks ?_) fun _ => asks_pure
  exact h

end ManagementClient

namespace Cluster

variable {c : Cluster} {pace : Pace} {p : ClusterPass}

theorem signIn_asks (h : ∀ ns name, P (.getSecret ns name)) : c.signIn.Asks P := by
  refine asks_bind asks_ofExcept fun ns => asks_bind (asks_call.mpr (h _ _)) fun reply => ?_
  refine asks_bind asks_ofExcept fun secret => ?_
  cases secret with
  | none => exact asks_fail
  | some secret => exact asks_bind asks_ofExcept fun _ => asks_pure

theorem ensureSecret_asks {ns : String} : (c.ensureSecret ns).Asks (Step.vocabulary .initResources) := by
  unfold ensureSecret
  refine asks_bind (Pass.isThere_asks trivial) fun there => ?_
  split
  · exact asks_pure
  · refine asks_bind (asks_call.mpr trivial) fun key => asks_bind (asks_call.mpr trivial) fun reply => ?_
    cases reply with
    | ok _ => exact asks_tell.mpr trivial
    | error e =>
        dsimp only
        split
        · exact asks_pure
        · exact asks_fail

theorem ensureResources_asks : c.ensureResources.Asks (Step.vocabulary .initResources) := by
  unfold ensureResources
  refine asks_bind asks_ofExcept fun ns => asks_bind ensureSecret_asks fun _ => ?_
  refine asks_bind (Pass.write_asks trivial) fun _ => asks_bind (Pass.write_asks trivial) fun _ => ?_
  unfold resourcesReady
  refine asks_bind (Pass.isThere_asks trivial) fun secret => ?_
  split
  · exact asks_pure
  · refine asks_bind (Pass.isThere_asks trivial) fun config => ?_
    split
    · exact asks_pure
    · exact Pass.isThere_asks trivial

theorem bootstrapStep_asks : (c.bootstrapStep pace p).Asks (Step.vocabulary .initResources) := by
  unfold bootstrapStep
  dsimp only
  split
  · apply asks_bind asks_pure
    intro ready
    split
    · exact asks_pure
    · refine asks_bind (asks_now.mpr trivial) fun t => ?_
      split
      · exact asks_pure
      · exact asks_pure
  · apply asks_bind ensureResources_asks
    intro ready
    split
    · exact asks_pure
    · refine asks_bind (asks_now.mpr trivial) fun t => ?_
      split
      · exact asks_pure
      · exact asks_pure

theorem resize_asks {ns name : String} {desired : Int32} {sets : List StatefulSet}
    (sized : P (.write ns (.scaleGeneration name desired))) : (resize ns name desired sets).Asks P := by
  unfold resize
  dsimp only
  split
  · exact asks_pure
  · exact asks_bind (Pass.write_asks sized) fun _ => asks_pure

theorem createGeneration_asks {ns : String} {manifest : GenerationManifest}
    (made : P (.write ns (.applyGeneration manifest))) (told : ∀ note, P (.tell note)) :
    (createGeneration ns manifest).Asks P := by
  unfold createGeneration
  exact asks_bind (Pass.write_asks made) fun _ => asks_bind (asks_tell.mpr (told _)) fun _ => asks_pure

theorem stamping_asks {ns : String} {template : PodTemplate} {reply : Except ApiError (List StatefulSet)}
    (sized : ∀ name replicas, P (.write ns (.scaleGeneration name replicas)))
    (made : ∀ manifest, P (.write ns (.applyGeneration manifest))) (told : ∀ note, P (.tell note))
    (listed : P (.listPods ns c.selector)) :
    Asks P (do
      let sets ← Pass.api reply
      let resolved ← Pass.object (c.resolveGeneration template (existingOf sets))
      let written ← match resolved with
        | .adopt name _ => resize ns name c.spec.replicas sets
        | .create name hash => do
          let manifest ← Pass.object (c.manifestOf name hash)
          let created ← createGeneration ns manifest
          pure (some created)
      let sets := match written with
        | some set => putSet set sets
        | none => sets
      let pods ← Pass.api (← Attempt.call (.listPods ns c.selector))
      return { p with generations := Generation.collect sets pods, update := some resolved.name } :
        Pass ClusterPass) := by
  refine asks_bind asks_ofExcept fun sets => asks_bind asks_ofExcept fun resolved => ?_
  have after : ∀ written : Option StatefulSet, Asks P (do
      let sets := match written with
        | some set => putSet set sets
        | none => sets
      let pods ← Pass.api (← Attempt.call (.listPods ns c.selector))
      return { p with generations := Generation.collect sets pods, update := some resolved.name } :
        Pass ClusterPass) := by
    intro written
    exact asks_bind (asks_call.mpr listed) fun reply => asks_bind asks_ofExcept fun _ => asks_pure
  cases resolved with
  | adopt name hash => exact asks_bind (resize_asks (sized _ _)) after
  | create name hash =>
      refine asks_bind asks_ofExcept fun manifest => ?_
      exact asks_bind (createGeneration_asks (made _) told) fun created => asks_bind asks_pure after

theorem generationStep_asks : (c.generationStep p).Asks (Step.vocabulary .generations) := by
  unfold generationStep
  refine asks_bind asks_ofExcept fun ns => asks_bind asks_ofExcept fun template => ?_
  refine asks_bind (asks_call.mpr trivial) fun reply => ?_
  exact stamping_asks (fun _ _ => trivial) (fun _ => trivial) (fun _ => trivial) trivial

theorem nodeStep_asks : (c.nodeStep pace p).Asks (Step.vocabulary .nodes) := by
  unfold nodeStep
  split
  · exact asks_pure
  · refine asks_bind (asks_mapFailure (signIn_asks fun _ _ => trivial)) fun client => ?_
    refine asks_bind asks_ofExcept fun endpoint => ?_
    exact asks_bind (asks_mapFailure (ManagementClient.nodes_asks trivial)) fun _ => asks_pure

theorem stateStep_asks : (c.stateStep pace p).Asks (Step.vocabulary .stateMachine) := by
  unfold stateStep
  refine asks_bind (asks_now.mpr trivial) fun t => ?_
  dsimp only
  split
  · refine asks_bind asks_pure fun next => ?_
    split
    · exact asks_bind (asks_tell.mpr trivial) fun _ => asks_pure
    · exact asks_pure
  · refine asks_bind asks_pure fun next => ?_
    split
    · exact asks_bind (asks_tell.mpr trivial) fun _ => asks_pure
    · exact asks_pure
  · refine asks_bind (asks_tell.mpr trivial) fun _ => asks_bind asks_pure fun next => ?_
    split
    · exact asks_bind (asks_tell.mpr trivial) fun _ => asks_pure
    · exact asks_pure

theorem evacuate_asks {ns target : String} {link : ManagementLink} {outgoing : Generation}
    {plan : EvacuationPlan} (sizes : ∀ replicas, P (.write ns (.scaleGeneration outgoing.name replicas)))
    (starts : ∀ node order, P (.send link.endpoint link.client.port link.client.credentials
      (.startEvacuation node order)))
    (tells : ∀ event, P (.tell event)) : (c.evacuate ns target link outgoing plan p).Asks P := by
  unfold evacuate
  cases plan with
  | scaleDown replicas =>
      refine asks_bind (Pass.write_asks (sizes _)) fun _ => ?_
      exact asks_bind (asks_tell.mpr (tells _)) fun _ => asks_pure
  | start node migrateTo =>
      refine asks_bind (asks_mapFailure (ManagementClient.order_asks (starts _ _))) fun _ => ?_
      exact asks_bind (asks_tell.mpr (tells _)) fun _ => asks_pure
  | wait => exact asks_pure

theorem evacuateFrom_asks {update : BlueGreenUpdate} {link : ManagementLink} {outgoing : Generation}
    {lastPod : String} :
    (c.evacuateFrom pace update link outgoing lastPod p).Asks (Step.vocabulary .evacuation) := by
  have acts : ∀ {ns target plan} {next : ClusterPass},
      (c.evacuate ns target link outgoing plan next).Asks (Step.vocabulary .evacuation) :=
    evacuate_asks (fun _ => trivial) (fun _ _ => trivial) fun _ => trivial
  unfold evacuateFrom
  refine asks_bind asks_ofExcept fun nodes => ?_
  refine asks_bind (asks_mapFailure (ManagementClient.loadReport_asks trivial)) fun report => ?_
  dsimp only
  split
  · refine asks_bind asks_pure fun incoming => asks_bind asks_ofExcept fun target => ?_
    exact asks_bind asks_ofExcept fun ns => asks_bind acts fun _ => asks_pure
  · refine asks_bind asks_fail fun incoming => asks_bind asks_ofExcept fun target => ?_
    exact asks_bind asks_ofExcept fun ns => asks_bind acts fun _ => asks_pure

theorem evacuationStep_asks : (c.evacuationStep pace p).Asks (Step.vocabulary .evacuation) := by
  unfold evacuationStep
  split
  · exact asks_pure
  · split
    · exact asks_pure
    · refine asks_bind (asks_now.mpr trivial) fun t => ?_
      split
      · exact asks_pure
      · split
        · exact asks_pure
        · split
          · exact asks_pure
          · split
            · exact asks_pure
            · exact evacuateFrom_asks

theorem availability_asks {link : Option ManagementLink} {serving : Bool} {pod : String} :
    (c.availability link serving pod).Asks (Step.vocabulary .readinessGates) := by
  unfold availability
  split
  · split
    · exact asks_pure
    · refine asks_bind asks_ofExcept fun endpoint => ?_
      exact asks_bind (ManagementClient.isAvailable_asks trivial) fun _ => asks_pure
  · exact asks_pure

theorem gate_asks {ns : String} {link : Option ManagementLink} {servingHash : Option String}
    {replica : Replica} : (c.gate ns link servingHash replica).Asks (Step.vocabulary .readinessGates) := by
  unfold gate
  refine asks_bind availability_asks fun available => ?_
  dsimp only
  split
  · exact asks_pure
  · refine asks_bind (asks_now.mpr trivial) fun t => ?_
    exact asks_bind (asks_call.mpr trivial) fun _ => asks_pure

theorem gateStep_asks : (c.gateStep p).Asks (Step.vocabulary .readinessGates) := by
  unfold gateStep
  refine asks_bind asks_ofExcept fun ns => asks_bind ?_ fun _ => asks_pure
  generalize p.generations.flatMap (·.pods) = replicas
  induction replicas with
  | nil => exact asks_pure
  | cons replica rest ih =>
      rw [List.forM_eq_forM, List.forM_cons]
      exact asks_bind gate_asks fun _ => ih

theorem listenerStep_asks : (c.listenerStep p).Asks (Step.vocabulary .listeners) := by
  unfold listenerStep
  split
  · exact asks_pure
  · refine asks_bind (asks_mapFailure (ManagementClient.listeners_asks trivial)) fun listeners => ?_
    dsimp only
    split
    · exact asks_pure
    · refine asks_bind asks_ofExcept fun ns => ?_
      exact asks_bind (Pass.write_asks trivial) fun _ => asks_pure

end Cluster

theorem Step.run_asks (step : Step) {c : Cluster} {pace : Pace} {p : ClusterPass} :
    (step.run c pace p).Asks step.vocabulary := by
  cases step with
  | initResources => exact Cluster.bootstrapStep_asks
  | generations => exact Cluster.generationStep_asks
  | nodes => exact Cluster.nodeStep_asks
  | stateMachine => exact Cluster.stateStep_asks
  | evacuation => exact Cluster.evacuationStep_asks
  | readinessGates => exact Cluster.gateStep_asks
  | listeners => exact Cluster.listenerStep_asks

/-! ### Moves and statuses -/

def Call.IsMove : Call → Prop
  | .write _ (.scaleGeneration ..) => True
  | .write _ (.applyGeneration _) => True
  | .send _ _ _ (.startEvacuation ..) => True
  | _ => False

def Quiet (log : List Exchange) : Prop :=
  ∀ x ∈ log, ¬ x.call.IsMove

theorem quiet_nil : Quiet [] :=
  fun _ member => nomatch member

theorem quiet_cons {x : Exchange} {log : List Exchange} (first : ¬ x.call.IsMove) (rest : Quiet log) :
    Quiet (x :: log) := by
  intro y member
  rcases List.mem_cons.mp member with rfl | later
  · exact first
  · exact rest y later

theorem quiet_append {first rest : List Exchange} (hfirst : Quiet first) (hrest : Quiet rest) :
    Quiet (first ++ rest) := by
  intro x member
  rcases List.mem_append.mp member with h | h
  · exact hfirst x h
  · exact hrest x h

def LeavesStatus (log : List Exchange) : Prop :=
  ∀ x ∈ log, ∀ ns name status, x.call ≠ .write ns (.clusterStatus name status)

def Call.IsListing : Call → Prop
  | .listSets .. => True
  | _ => False

theorem Step.vocabulary_not_move {step : Step} {call : Call} (notStamping : step ≠ .generations)
    (notEvacuating : step ≠ .evacuation) (h : step.vocabulary call) : ¬ call.IsMove := by
  intro move
  unfold Call.IsMove at move
  split at move
  · cases step <;> first | exact notStamping rfl | exact notEvacuating rfl | exact h
  · cases step <;> first | exact notStamping rfl | exact notEvacuating rfl | exact h
  · cases step <;> first | exact notStamping rfl | exact notEvacuating rfl | exact h
  · exact move

theorem Step.run_quiet (step : Step) {c : Cluster} {pace : Pace} {p : ClusterPass} {log : List Exchange}
    {r : Except Failure ClusterPass} (notStamping : step ≠ .generations)
    (notEvacuating : step ≠ .evacuation) (ends : (step.run c pace p).Ends log r) : Quiet log :=
  fun x member =>
    vocabulary_not_move notStamping notEvacuating (step.run_asks.call_of_mem ends x member)

theorem Step.run_leavesStatus {step : Step} {c : Cluster} {pace : Pace} {p : ClusterPass}
    {log : List Exchange} {r : Except Failure ClusterPass} (ends : (step.run c pace p).Ends log r) :
    LeavesStatus log := by
  intro x member ns name status same
  have within := step.run_asks.call_of_mem ends x member
  rw [same] at within
  cases step <;> exact within

theorem Step.run_unlisted {step : Step} {c : Cluster} {pace : Pace} {p : ClusterPass} {log : List Exchange}
    {r : Except Failure ClusterPass} (notStamping : step ≠ .generations)
    (ends : (step.run c pace p).Ends log r) : ∀ x ∈ log, ¬ x.call.IsListing := by
  intro x member listing
  have within := step.run_asks.call_of_mem ends x member
  unfold Call.IsListing at listing
  split at listing
  · next same =>
    rw [same] at within
    cases step <;> first | exact notStamping rfl | exact within
  · exact listing

theorem Step.run_unfetched {step : Step} {c : Cluster} {pace : Pace} {p : ClusterPass}
    {log : List Exchange} {r : Except Failure ClusterPass} (ends : (step.run c pace p).Ends log r) :
    ∀ x ∈ log, ∀ ns name, x.call ≠ .getCluster ns name := by
  intro x member ns name same
  have within := step.run_asks.call_of_mem ends x member
  rw [same] at within
  cases step <;> exact within

theorem Cluster.generationStep_lists_first {c : Cluster} {p : ClusterPass} {log : List Exchange}
    {r : Except Failure ClusterPass} (ends : (c.generationStep p).Ends log r) :
    log = [] ∨ ∃ first rest, log = first :: rest ∧ ∀ x ∈ rest, ¬ x.call.IsListing := by
  unfold generationStep at ends
  rcases ends_ofExcept_bind.mp ends with ⟨e, -, rfl, -⟩ | ⟨ns, -, placed⟩
  · exact .inl rfl
  rcases ends_ofExcept_bind.mp placed with ⟨e, -, rfl, -⟩ | ⟨template, -, made⟩
  · exact .inl rfl
  obtain ⟨reply, rest, rfl, listed⟩ := ends_call_bind.mp made
  refine .inr ⟨_, rest, rfl, ?_⟩
  exact (stamping_asks (P := fun call => ¬ call.IsListing) (fun _ _ h => h) (fun _ h => h) (fun _ h => h)
    fun h => h).call_of_mem listed

end BrokerFleet
