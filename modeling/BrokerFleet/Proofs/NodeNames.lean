import BrokerFleet.Proofs.Environment
import BrokerFleet.Proofs.Separators
import BrokerFleet.Rebalance.Progress

/-!
The names of nodes. A replica registers under the name that its environment gives it, and the operator builds the same
name from the pod's; so it takes the pod off the name of a node, and its calls about that node go to that pod's address.
-/

namespace BrokerFleet

namespace Cluster

variable {c : Cluster} {ns pod node : String}

theorem splitFirst?_nodeAt (host : String) :
    Text.splitFirst? '@' (nodeAt host).toList = some ("broker".toList, host.toList) := by
  have parts : (nodeAt host).toList = "broker".toList ++ '@' :: host.toList := by
    rw [nodeAt, String.toList_append]
    rfl
  rw [parts]
  exact Text.splitFirst?_append (by decide)

theorem podOfNode?_nodeAt (named : pod ≠ "") (undotted : '.' ∉ pod.toList) :
    podOfNode? (nodeAt (c.hostOf ns pod)) = some pod := by
  have parts : (c.hostOf ns pod).toList = pod.toList ++ '.' :: (c.domain ns).toList := by
    rw [hostOf, String.toList_append, String.toList_append, List.append_assoc]
    rfl
  have filled : ¬ pod.toList.isEmpty = true := by
    rw [List.isEmpty_iff, String.toList_eq_nil_iff]
    exact named
  unfold podOfNode?
  rw [splitFirst?_nodeAt, parts]
  simp only [Option.bind_eq_bind, Option.bind_some, Text.beforeFirst_append undotted, if_neg filled,
    String.ofList_toList]

theorem nodeName?_placed (placed : c.ns? = some ns) (pod : String) :
    c.nodeName? pod = some (nodeAt (c.hostOf ns pod)) := by
  rw [nodeName?, replicaHost?, placed]
  rfl

theorem nodeName?_inj (placed : c.ns? = some ns) {p q : String} (same : c.nodeName? p = c.nodeName? q) : p = q := by
  rw [nodeName?_placed placed, nodeName?_placed placed] at same
  simpa only [nodeAt, hostOf, Option.some.injEq, String.append_right_inj, String.append_left_inj] using same

theorem coordinator_of_node (placed : c.ns? = some ns) {preferred : Option String}
    (chosen : (preferred <|> (c.statusNodes.find? ClusterNode.isRunning).map (·.name)) = some node)
    (read : podOfNode? node = some pod) : c.coordinator preferred = .ok (node, ⟨ns, pod, c.hostOf ns pod⟩) := by
  unfold coordinator
  rw [chosen]
  dsimp only
  rw [read, placed]

/-- The variable is written out for the name of a pod that is not known yet, and it is the name that the operator builds
from that. -/
theorem nodeAt_variable : nodeAt (c.hostOf ns "$(POD_NAME)") =
    "broker@$(POD_NAME)." ++ c.headlessName ++ "." ++ ns ++ ".svc.cluster.local" := by
  have front : "broker@$(POD_NAME)." = "broker@" ++ "$(POD_NAME)" ++ "." := rfl
  rw [front]
  simp only [nodeAt, hostOf, domain, String.append_assoc]

theorem node_variable (placed : c.ns? = some ns) (free : ∀ u ∈ c.spec.env, u.name ≠ "BROKER_NODE__NAME") :
    ∃ template env node, c.podTemplate? = some template ∧ template.RunsWith env ∧
      c.nodeName? "$(POD_NAME)" = some node ∧
      env.filter (·.name == "BROKER_NODE__NAME") = [.plain "BROKER_NODE__NAME" node] := by
  obtain ⟨template, made, runs⟩ := podTemplate_runsWith placed
  have set : EnvVar.plain "BROKER_NODE__NAME" (nodeAt (c.hostOf ns "$(POD_NAME)")) ∈ c.operatorEnv ns := by
    rw [nodeAt_variable]
    exact List.mem_cons_of_mem _ List.mem_cons_self
  exact ⟨template, c.env ns, _, made, runs, nodeName?_placed placed _, env_of_unused set free⟩

/-- Replicas look for each other in the domain that their hosts are in. -/
theorem replicas_in_discovered_domain (placed : c.ns? = some ns)
    (free : ∀ u ∈ c.spec.env, u.name ≠ "BROKER_CLUSTER__DNS__NAME") :
    ∃ template env domain, c.podTemplate? = some template ∧ template.RunsWith env ∧
      env.filter (·.name == "BROKER_CLUSTER__DNS__NAME") = [.plain "BROKER_CLUSTER__DNS__NAME" domain] ∧
      ∀ pod, c.replicaHost? pod = some (pod ++ "." ++ domain) := by
  obtain ⟨template, made, runs⟩ := podTemplate_runsWith placed
  have set : EnvVar.plain "BROKER_CLUSTER__DNS__NAME" (c.domain ns) ∈ c.operatorEnv ns := by
    simp [operatorEnv, domain]
  refine ⟨template, c.env ns, c.domain ns, made, runs, env_of_unused set free, fun pod => ?_⟩
  rw [replicaHost?, placed]
  rfl

/-- Names of nodes lead back to their pods, and nowhere else; calls about a node reach that pod at the host that the
name tells, be the node asked for or the first that runs. Where none runs and none is asked for, there is nobody to
call. -/
theorem node_names_agree (placed : c.ns? = some ns) :
    (∀ p, p ≠ "" → '.' ∉ p.toList → ∃ node host, c.nodeName? p = some node ∧ podOfNode? node = some p ∧
      Text.splitFirst? '@' node.toList = some ("broker".toList, host.toList) ∧
      (∀ q, c.nodeName? q = some node → p = q) ∧
      c.coordinator (some node) = .ok (node, ⟨ns, p, host⟩) ∧
      ∀ n, c.statusNodes.find? ClusterNode.isRunning = some n → n.name = node →
        c.coordinator none = .ok (node, ⟨ns, p, host⟩)) ∧
    ((∀ n ∈ c.statusNodes, n.isRunning = false) → c.coordinator none = .error (.noCoordinator c.name)) ∧
    ((∀ u ∈ c.spec.env, u.name ≠ "BROKER_NODE__NAME") →
      ∃ template env node, c.podTemplate? = some template ∧ template.RunsWith env ∧
        c.nodeName? "$(POD_NAME)" = some node ∧
        env.filter (·.name == "BROKER_NODE__NAME") = [.plain "BROKER_NODE__NAME" node]) := by
  refine ⟨fun p named undotted => ?_, fun idle => ?_, node_variable placed⟩
  · have built := nodeName?_placed placed p
    have read : podOfNode? (nodeAt (c.hostOf ns p)) = some p := podOfNode?_nodeAt named undotted
    refine ⟨_, c.hostOf ns p, built, read, splitFirst?_nodeAt _, fun q same => ?_, ?_, fun n first same => ?_⟩
    · exact nodeName?_inj placed (built.trans same.symm)
    · exact coordinator_of_node placed rfl read
    · refine coordinator_of_node placed ?_ read
      rw [first, ← same]
      rfl
  · have none : c.statusNodes.find? ClusterNode.isRunning = none :=
      List.find?_eq_none.mpr fun n member => Bool.eq_false_iff.mp (idle n member)
    unfold coordinator
    rw [none]
    rfl

def twoNodeCluster : Cluster :=
  { overlaidCluster with
    status := some { ClusterStatus.initial with
      nodes := [⟨"broker@broker-a-1.broker-headless.default.svc.cluster.local", "stopped", "", "", none, none⟩,
        ⟨"broker@broker-a-0.broker-headless.default.svc.cluster.local", "running", "", "", none, none⟩] } }

theorem running_node_reached : twoNodeCluster.ns? = some "default" ∧ ∃ node host,
    twoNodeCluster.nodeName? "broker-a-0" = some node ∧ podOfNode? node = some "broker-a-0" ∧
    twoNodeCluster.coordinator none = .ok (node, ⟨"default", "broker-a-0", host⟩) ∧
    ∃ template env, twoNodeCluster.podTemplate? = some template ∧ template.RunsWith env ∧
      env.filter (·.name == "BROKER_NODE__NAME") = [.plain "BROKER_NODE__NAME"
        "broker@$(POD_NAME).broker-headless.default.svc.cluster.local"] := by
  have placed : twoNodeCluster.ns? = some "default" := rfl
  obtain ⟨called, -, told⟩ := node_names_agree placed
  obtain ⟨node, host, built, read, -, -, -, reached⟩ := called "broker-a-0" (by decide) (by decide)
  obtain ⟨template, env, own, made, runs, named, set⟩ := told (by decide +kernel)
  cases named
  refine ⟨placed, node, host, built, read, reached _ rfl ?_, template, env, made, runs, set⟩
  exact Option.some.inj built

end Cluster

end BrokerFleet
