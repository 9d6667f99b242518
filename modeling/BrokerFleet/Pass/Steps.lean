import BrokerFleet.Generation.Evacuation
import BrokerFleet.Generation.Name
import BrokerFleet.Pass.State

/-!
The steps of a pass over a cluster. Each step gets what the pass knows and hands on what it knows then;
a step that fails ends the pass.
-/

namespace BrokerFleet

open Kubernetes

namespace Cluster

/-! ### The objects that generations need -/

/-- Makes the credentials once; a secret that is there is never written again. -/
def ensureSecret (c : Cluster) (ns : String) : Pass Unit := do
  if ← Pass.isThere .secret ns c.secretName then return
  let key ← Attempt.call .freshKey
  match ← Attempt.call (.write ns (.createSecret (c.bootstrapSecret key))) with
  | .ok _ =>
    Attempt.tell .normal "BootstrapKeyCreated"
      ("Created bootstrap API key secret " ++ c.secretName)
  | .error e => if e.isConflict then return else Attempt.fail (.access (.api e))

def resourcesReady (c : Cluster) (ns : String) : Pass Bool := do
  if !(← Pass.isThere .secret ns c.secretName) then return false
  if !(← Pass.isThere .configMap ns c.configName) then return false
  Pass.isThere .service ns c.headlessName

def ensureResources (c : Cluster) : Pass Bool := do
  let ns ← Pass.object c.placed
  c.ensureSecret ns
  Pass.write ns (.applyConfig c.configMap)
  Pass.write ns (.applyService c.headlessService)
  c.resourcesReady ns

/-- Makes sure that the objects which generations need exist. The first pass over a new cluster only
leaves the state `Empty`. -/
def bootstrapStep (c : Cluster) (pace : Pace) (p : ClusterPass) : Pass ClusterPass := do
  let ready ← if p.status.currentState = .empty then pure p.initReady else c.ensureResources
  let p := { p with initReady := ready }
  if ready then return p
  let (status, outcome) := p.status.advance (.pending c.capability c.spec.replicas) (← Attempt.now)
  let p := { p with status }
  if outcome = .halt then return (p.ask (.retryAfter pace.retry)).halt
  return p

/-! ### Generations -/

def resolveGeneration (c : Cluster) (template : PodTemplate) (existing : List Generation.Existing) :
    Except ObjectFailure Generation.Resolved :=
  let text := Generation.hashedText template.spec
  match Generation.resolve? (Generation.saltedHash text) c.name existing with
  | some resolved => .ok resolved
  | none => .error (.namesExhausted c.name Generation.nameAttempts)

def existingOf (sets : List StatefulSet) : List Generation.Existing :=
  sets.filterMap fun set => set.name.map (⟨·, set.hash⟩)

def putSet (written : StatefulSet) : List StatefulSet → List StatefulSet
  | [] => [written]
  | set :: rest => if set.name == written.name then written :: rest else set :: putSet written rest

def resize (ns name : String) (desired : Int32) (sets : List StatefulSet) :
    Pass (Option StatefulSet) := do
  let current := (sets.find? (·.name == some name)).bind (·.replicas)
  if current == some desired then return none
  return some (← Pass.write ns (.scaleGeneration name desired))

def createGeneration (ns : String) (manifest : GenerationManifest) : Pass StatefulSet := do
  let created ← Pass.write ns (.applyGeneration manifest)
  Attempt.tell .normal "GenerationCreated" ("Created generation " ++ manifest.metadata.name)
  return created

def desiredTemplate (c : Cluster) : Except ObjectFailure PodTemplate :=
  match c.podTemplate? with
  | some template => .ok template
  | none => .error .noNamespace

def manifestOf (c : Cluster) (name hash : String) : Except ObjectFailure GenerationManifest :=
  match c.generation? name hash c.spec.replicas with
  | some manifest => .ok manifest
  | none => .error .noNamespace

/-- Makes the generation of the desired template, or adopts and resizes the one that is there. Other
generations are not touched. -/
def generationStep (c : Cluster) (p : ClusterPass) : Pass ClusterPass := do
  let ns ← Pass.object c.placed
  let template ← Pass.object c.desiredTemplate
  let sets ← Pass.api (← Attempt.call (.listSets ns c.selector))
  let resolved ← Pass.object (c.resolveGeneration template (existingOf sets))
  let written ← match resolved with
    | .adopt name _ => resize ns name c.spec.replicas sets
    | .create name hash => do
      let manifest ← Pass.object (c.manifestOf name hash)
      let created ← createGeneration ns manifest
      pure (some created)
  let sets := match written with
    | some set => putSet set sets
    | none => sets
  let pods ← Pass.api (← Attempt.call (.listPods ns c.selector))
  return { p with generations := Generation.collect sets pods, update := some resolved.name }

/-! ### Nodes and state -/

def nodeStep (c : Cluster) (pace : Pace) (p : ClusterPass) : Pass ClusterPass := do
  match Generation.chooseReplica? p.generations p.update with
  | none =>
    return { p with status := { p.status with nodes := [] } }.ask (.retryAfter pace.retry)
  | some replica =>
    let client ← Pass.access c.signIn
    let endpoint ← Pass.object (c.endpoint replica.name)
    let nodes ← Pass.management (client.nodes endpoint)
    return { p with status := { p.status with nodes }, link := some ⟨client, endpoint⟩ }

def stateStep (c : Cluster) (pace : Pace) (p : ClusterPass) : Pass ClusterPass := do
  let seen := c.observe p.initReady p.status.nodes p.generations p.update
  let (status, outcome) := p.status.advance seen (← Attempt.now)
  let next := { p with status }
  let next ← match outcome with
    | .continue => pure next
    | .halt => pure (next.ask (.retryAfter pace.retry)).halt
    | .fatal text => do
      Attempt.tell .warning "EvacuationUnsupported" text
      pure (next.ask (.fatal text)).halt
  match p.status.blueGreenUpdate, status.blueGreenUpdate with
  | none, some u =>
    Attempt.tell .normal "BlueGreenStarted"
      ("Moving clients from " ++ u.originGeneration ++ " to " ++ u.currentGeneration)
  | _, _ => pure ()
  return next

/-! ### Evacuation -/

def withReplicas (name : String) (replicas : Int32) : List Generation → List Generation
  | [] => []
  | g :: rest =>
    if g.name == name then { g with replicas } :: rest else g :: withReplicas name replicas rest

def evacuate (c : Cluster) (ns target : String) (link : ManagementLink) (outgoing : Generation)
    (plan : EvacuationPlan) (p : ClusterPass) : Pass ClusterPass := do
  match plan with
  | .scaleDown replicas =>
    let _ ← Pass.write ns (.scaleGeneration outgoing.name replicas)
    Attempt.tell .normal "ReplicaRetired"
      ("Node " ++ target ++ " is drained, scaled " ++ outgoing.name ++ " to " ++
        toString replicas.toInt)
    return { p with generations := withReplicas outgoing.name replicas p.generations }
  | .start node migrateTo =>
    let order := EvacuationOrder.ofStrategy c.spec.updateStrategy.evacuationStrategy migrateTo
    Pass.management (link.client.order link.endpoint (.startEvacuation node order))
    Attempt.tell .normal "EvacuationStarted" ("Evacuating clients from " ++ node)
    return p
  | .wait => return p

/-- Moves clients off the last replica of the outgoing generation. -/
def evacuateFrom (c : Cluster) (pace : Pace) (update : BlueGreenUpdate) (link : ManagementLink)
    (outgoing : Generation) (lastPod : String) (p : ClusterPass) : Pass ClusterPass := do
  let outgoingNodes ← Pass.object (outgoing.pods.mapM fun pod => c.nodeOf pod.name)
  let report ← Pass.management (link.client.loadReport link.endpoint)
  let evacuations := report.evacuations.filter fun e => outgoingNodes.contains e.node
  let recorded := p.status.blueGreenUpdate.map fun u => { u with evacuations }
  let next := { p with status := { p.status with blueGreenUpdate := recorded } }
  let current := Generation.find? update.currentGeneration p.generations
  let incoming ← match c.incomingNodes? current p.status.nodes with
    | some nodes => pure nodes
    | none => Attempt.fail (.object .noNamespace)
  let target ← Pass.object (c.nodeOf lastPod)
  let ns ← Pass.object c.placed
  let plan := EvacuationPlan.choose target outgoing.replicas evacuations incoming
  let next ← c.evacuate ns target link outgoing plan next
  return next.ask (.retryAfter pace.retry)

def evacuationStep (c : Cluster) (pace : Pace) (p : ClusterPass) : Pass ClusterPass := do
  match p.status.blueGreenUpdate with
  | none => return p
  | some update =>
    if !c.capability.supportsEvacuation then return p
    let delay := c.spec.updateStrategy.initialDelaySeconds
    match BlueGreenUpdate.delayRemaining? update.startedAt delay (← Attempt.now) with
    | some remaining => return p.ask (.retryAfter remaining)
    | none =>
      match p.link with
      | none => return p.ask (.retryAfter pace.retry)
      | some link =>
        match Generation.find? update.originGeneration p.generations with
        | none => return p
        | some outgoing =>
          match outgoing.lastReplica? with
          | none => return p
          | some lastPod => c.evacuateFrom pace update link outgoing lastPod p

/-! ### Readiness gates and listeners -/

def gateOpen (replicaHash servingHash : Option String) (available : Option Bool) : Bool :=
  replicaHash.isSome && replicaHash == servingHash && available.getD true

/-- Whether a replica is available; nobody is asked about one that does not serve. -/
def availability (c : Cluster) (link : Option ManagementLink) (serving : Bool) (pod : String) :
    Pass (Option Bool) := do
  if serving && c.capability.supportsEvacuation then
    match link with
    | none => return some false
    | some link =>
      let endpoint ← Pass.object (c.endpoint pod)
      return some (← link.client.isAvailable endpoint)
  else return none

/-- Sets the readiness gate of a replica, if it says otherwise. That it cannot be set is no failure. -/
def gate (c : Cluster) (ns : String) (link : Option ManagementLink) (servingHash : Option String)
    (replica : Replica) : Pass Unit := do
  let serving := gateOpen replica.hash servingHash none
  let available ← c.availability link serving replica.name
  let isOpen := gateOpen replica.hash servingHash available
  if replica.serving == some isOpen then return
  let since := Rfc3339.format (← Attempt.now)
  let _ ← Attempt.call (.write ns (.setServingGate replica.name isOpen since))

def gateStep (c : Cluster) (p : ClusterPass) : Pass ClusterPass := do
  let ns ← Pass.object c.placed
  let servingHash := p.status.currentGeneration.map (·.hash)
  (p.generations.flatMap (·.pods)).forM (c.gate ns p.link servingHash)
  return p

def listenerStep (c : Cluster) (p : ClusterPass) : Pass ClusterPass := do
  match p.link with
  | none => return p
  | some link =>
    let listeners ← Pass.management (link.client.listeners link.endpoint)
    let ports := Listener.ports listeners
    if ports.isEmpty then return p
    let ns ← Pass.object c.placed
    Pass.write ns (.applyService (c.listenersService ports))
    return p

end Cluster

end BrokerFleet
