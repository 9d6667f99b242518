import BrokerFleet.Proofs.Generations.Collection
import BrokerFleet.Proofs.Quiescence.Sight
import BrokerFleet.Proofs.Readiness

/-!
Readiness gates settle. A patch that the API rejects keeps no other one from being sent; and where the accepted patches
are stored and the checks are answered as before, the next step sends those patches again that were rejected, and no
others.
-/

namespace BrokerFleet

open Kubernetes Attempt Rehearsal

/-! ### Patches that are stored -/

/-- A patch of a readiness gate, and whether the API accepted it. -/
structure GatePatch where
  pod : String
  isOpen : Bool
  since : String
  accepted : Bool

def GatePatch.aim (x : GatePatch) : String × Bool :=
  (x.pod, x.isOpen)

def Exchange.gatePatch? : Exchange → Option GatePatch
  | ⟨.write _ (.setServingGate pod isOpen since), reply⟩ => some ⟨pod, isOpen, since, reply.isOk⟩
  | _ => none

def gatePatches (log : List Exchange) : List GatePatch :=
  log.filterMap Exchange.gatePatch?

theorem gatePatches_append (log later : List Exchange) :
    gatePatches (log ++ later) = gatePatches log ++ gatePatches later :=
  List.filterMap_append

namespace GatePatch

def write (x : GatePatch) : Write :=
  .setServingGate x.pod x.isOpen x.since

def onObject (x : GatePatch) (name : String) (object : Json) : Json :=
  if x.accepted = true ∧ name = x.pod then
    match Store.written x.write.verb x.write.body (Store.editsOf x.write) (some object) with
    | .ok sent => sent
    | .error _ => object
  else object

def onPod (x : GatePatch) (pod : Pod) : Pod :=
  if x.accepted = true ∧ pod.name = x.pod then pod.gated x.isOpen else pod

def onReplica (x : GatePatch) (r : Replica) : Replica :=
  if x.accepted = true ∧ r.name = x.pod then { r with serving := some x.isOpen } else r

@[simp] theorem onPod_name (x : GatePatch) (pod : Pod) : (x.onPod pod).name = pod.name := by
  unfold onPod
  split <;> rfl

@[simp] theorem onPod_owners (x : GatePatch) (pod : Pod) : (x.onPod pod).owners = pod.owners := by
  unfold onPod
  split <;> rfl

theorem standsIn_onPod (x : GatePatch) {pod : Pod} {object : Json} (stands : pod.StandsIn object) :
    (x.onPod pod).StandsIn (x.onObject pod.name object) := by
  unfold onPod onObject
  split
  · exact stands.gated x.isOpen x.since
  · exact stands

theorem ofPod_onPod (x : GatePatch) (pod : Pod) : Replica.ofPod (x.onPod pod) = x.onReplica (.ofPod pod) := by
  unfold onPod onReplica
  by_cases here : x.accepted = true ∧ pod.name = x.pod
  · have ready : (pod.gated x.isOpen).condition? "ContainersReady" = pod.condition? "ContainersReady" := by
      rw [← Pod.ungated_condition? (by decide), Pod.gated_ungated, Pod.ungated_condition? (by decide)]
    have there : x.accepted = true ∧ (Replica.ofPod pod).name = x.pod := here
    rw [if_pos here, if_pos there]
    unfold Replica.ofPod
    rw [Pod.gated_shows, ready]
    rfl
  · have elsewhere : ¬ (x.accepted = true ∧ (Replica.ofPod pod).name = x.pod) := here
    rw [if_neg here, if_neg elsewhere]

@[simp] theorem onReplica_name (x : GatePatch) (r : Replica) : (x.onReplica r).name = r.name := by
  unfold onReplica
  split <;> rfl

@[simp] theorem onReplica_hash (x : GatePatch) (r : Replica) : (x.onReplica r).hash = r.hash := by
  unfold onReplica
  split <;> rfl

theorem onReplica_ordinal (x : GatePatch) (r : Replica) : (x.onReplica r).ordinal = r.ordinal := by
  unfold onReplica
  split <;> rfl

end GatePatch

namespace Replica

/-- The replica as it is seen after some exchanges. -/
def after (r : Replica) (log : List Exchange) : Replica :=
  (gatePatches log).foldl (fun r x => x.onReplica r) r

theorem after_name (r : Replica) (log : List Exchange) : (r.after log).name = r.name := by
  unfold after
  induction gatePatches log generalizing r with
  | nil => rfl
  | cons x rest ih => rw [List.foldl_cons, ih, GatePatch.onReplica_name]

theorem after_hash (r : Replica) (log : List Exchange) : (r.after log).hash = r.hash := by
  unfold after
  induction gatePatches log generalizing r with
  | nil => rfl
  | cons x rest ih => rw [List.foldl_cons, ih, GatePatch.onReplica_hash]

theorem after_other {r : Replica} {log : List Exchange} (other : ∀ x ∈ gatePatches log, x.pod ≠ r.name) :
    r.after log = r := by
  unfold after
  generalize gatePatches log = patches at other
  induction patches with
  | nil => rfl
  | cons x rest ih =>
      have unchanged : x.onReplica r = r := if_neg fun here => other x List.mem_cons_self here.2.symm
      rw [List.foldl_cons, unchanged]
      exact ih fun y member => other y (List.mem_cons_of_mem _ member)

theorem after_append (r : Replica) (log later : List Exchange) :
    r.after (log ++ later) = (r.after log).after later := by
  unfold after
  rw [gatePatches_append, List.foldl_append]

end Replica

namespace Kubernetes.Pod

/-- The pod as it is seen after some exchanges. -/
def after (pod : Pod) (log : List Exchange) : Pod :=
  (gatePatches log).foldl (fun pod x => x.onPod pod) pod

theorem after_owners (pod : Pod) (log : List Exchange) : (pod.after log).owners = pod.owners := by
  unfold after
  induction gatePatches log generalizing pod with
  | nil => rfl
  | cons x rest ih => rw [List.foldl_cons, ih, GatePatch.onPod_owners]

theorem ofPod_after (pod : Pod) (log : List Exchange) :
    Replica.ofPod (pod.after log) = (Replica.ofPod pod).after log := by
  unfold after Replica.after
  induction gatePatches log generalizing pod with
  | nil => rfl
  | cons x rest ih => rw [List.foldl_cons, List.foldl_cons, ih, GatePatch.ofPod_onPod]

end Kubernetes.Pod

/-- The pod is an old one with the accepted patches of its gate. -/
structure StoredPod.Follows (log : List Exchange) (old pod : StoredPod) : Prop where
  name : pod.name = old.name
  object : pod.object = (gatePatches log).foldl (fun object x => x.onObject old.name object) old.object

theorem StoredPod.Follows.shown {log : List Exchange} {pod old : StoredPod} (follows : old.Follows log pod) :
    pod.shown = old.shown.after log := by
  have stands : (old.shown.after log).StandsIn pod.object := by
    have start := Pod.standsIn_of_read old.reads
    rw [follows.object, ← old.named]
    unfold Pod.after
    generalize old.shown = shown, old.object = object at start
    induction gatePatches log generalizing shown object with
    | nil => exact start
    | cons x rest ih =>
        have later := ih _ _ (x.standsIn_onPod start)
        rwa [GatePatch.onPod_name] at later
  exact (Pod.standsIn_of_read pod.reads).unique stands

theorem StoredPod.shown_of_follows {log : List Exchange} {pods pods' : List StoredPod}
    (follow : List.Forall₂ (StoredPod.Follows log) pods pods') :
    pods'.map (·.shown) = (pods.map (·.shown)).map (·.after log) := by
  induction follow with
  | nil => rfl
  | cons first _ ih => rw [List.map_cons, List.map_cons, List.map_cons, ih, first.shown]

namespace Generation

theorem replicas_after {sets : List StatefulSet} (log : List Exchange) (pods : List Pod) :
    (collect sets (pods.map (·.after log))).flatMap (·.pods) =
      ((collect sets pods).flatMap (·.pods)).map fun r => r.after log := by
  have ordinal : ∀ r : Replica, (r.after log).ordinal = r.ordinal := by
    intro r
    unfold Replica.after
    induction gatePatches log generalizing r with
    | nil => rfl
    | cons x rest ih => rw [List.foldl_cons, ih, GatePatch.onReplica_ordinal]
  rw [collect_map (fun pod => pod.after_owners log) (fun pod => pod.ofPod_after log) ordinal, List.flatMap_map,
    List.map_flatMap]
  rfl

/-! ### One generation each -/

/-- No pod is owned by two of the generations. -/
def Unshared (generations : List Generation) (pods : List Pod) : Prop :=
  generations.Pairwise fun g h => ∀ pod ∈ pods, ¬ (owns g.name pod = true ∧ owns h.name pod = true)

theorem replica_names {sets : List StatefulSet} {pods : List Pod} (distinct : (pods.map (·.name)).Nodup)
    (unshared : Unshared (collect sets pods) pods) :
    (((collect sets pods).flatMap (·.pods)).map (·.name)).Nodup := by
  rw [List.map_flatMap, List.nodup_flatMap]
  constructor
  · exact fun g collected => podNames_distinct distinct collected
  · refine unshared.imp_of_mem fun gin hin apart name here there => ?_
    obtain ⟨pod, among, rfl⟩ := List.mem_map.mp ((podNames_of_collect gin).mem_iff.mp here)
    obtain ⟨pod', among', same⟩ := List.mem_map.mp ((podNames_of_collect hin).mem_iff.mp there)
    obtain ⟨listed, owned⟩ := List.mem_filter.mp among
    obtain ⟨listed', owned'⟩ := List.mem_filter.mp among'
    cases List.inj_on_of_nodup_map distinct listed' listed same
    exact apart pod listed ⟨owned, owned'⟩

end Generation

/-! ### Again -/

def AnswersAlike (log later : List Exchange) : Prop :=
  ∀ peer port credentials reply reply', ⟨.send peer port credentials .availability, reply⟩ ∈ log →
    ⟨.send peer port credentials .availability, reply'⟩ ∈ later → reply = reply'

theorem AnswersAlike.mono {log later log' later' : List Exchange} (alike : AnswersAlike log later) (fewer : log' ⊆ log)
    (fewer' : later' ⊆ later) : AnswersAlike log' later' :=
  fun peer port credentials reply reply' member member' =>
    alike peer port credentials reply reply' (fewer member) (fewer' member')

namespace Cluster

variable {c : Cluster} {ns : String} {p q : ClusterPass} {r : Replica} {log later : List Exchange}

theorem Judges.again {r' : Replica} {checks checks' : List Exchange} {isOpen isOpen' : Bool}
    (first : c.Judges ns p r checks isOpen) (second : c.Judges ns q r' checks' isOpen') (named : r'.name = r.name)
    (hashed : r'.hash = r.hash) (status : q.status = p.status) (link : q.link = p.link)
    (alike : AnswersAlike checks checks') : isOpen' = isOpen := by
  have current : r'.IsCurrent q.status ↔ r.IsCurrent p.status := by
    unfold Replica.IsCurrent
    rw [hashed, status]
  obtain ⟨asks, opens⟩ := first
  obtain ⟨asks', opens'⟩ := second
  simp only [current, link, named] at asks' opens'
  have same : checks' = checks := by
    rcases asks with ⟨l, reply, now, able, linked, rfl⟩ | ⟨unasked, rfl⟩
    · rcases asks' with ⟨l', reply', -, -, linked', rfl⟩ | ⟨unasked, -⟩
      · cases linked.symm.trans linked'
        rw [alike _ _ _ reply reply' List.mem_cons_self List.mem_cons_self]
      · exact absurd ⟨now, able, Option.isSome_iff_exists.mpr ⟨l, linked⟩⟩ unasked
    · rcases asks' with ⟨l', _, now, able, linked, -⟩ | ⟨-, rfl⟩
      · exact absurd ⟨now, able, Option.isSome_iff_exists.mpr ⟨l', linked⟩⟩ unasked
      · rfl
  rw [same] at opens'
  exact Bool.eq_iff_iff.mpr (opens'.trans opens.symm)

theorem Judges.unpatched {checks : List Exchange} {isOpen : Bool} (judges : c.Judges ns p r checks isOpen) :
    gatePatches checks = [] := by
  rcases judges.asks with ⟨_, _, -, -, -, rfl⟩ | ⟨-, rfl⟩ <;> rfl

theorem Patches.sent {isOpen : Bool} {patches : List Exchange} (patched : Patches ns r isOpen patches) :
    r.serving = some isOpen ∧ gatePatches patches = [] ∨
      r.serving ≠ some isOpen ∧ ∃ since accepted, gatePatches patches = [⟨r.name, isOpen, since, accepted⟩] := by
  rcases patched with ⟨shown, rfl⟩ | ⟨differs, t, reply, rfl⟩
  · exact .inl ⟨shown, rfl⟩
  · exact .inr ⟨differs, _, reply.isOk, rfl⟩

theorem Tends.patches (tends : c.Tends ns p r log) : ∀ x ∈ gatePatches log, x.pod = r.name := by
  obtain ⟨checks, isOpen, patches, rfl, judges, patched⟩ := tends
  intro x member
  rw [gatePatches_append, judges.unpatched, List.nil_append] at member
  rcases patched.sent with ⟨-, none⟩ | ⟨-, since, accepted, one⟩
  · rw [none] at member
    cases member
  · rw [one] at member
    rw [List.mem_singleton.mp member]

theorem Tends.again (first : c.Tends ns p r log) (second : c.Tends ns q (r.after log) later)
    (status : q.status = p.status) (link : q.link = p.link) (alike : AnswersAlike log later) :
    (gatePatches later).map GatePatch.aim = ((gatePatches log).filter (!·.accepted)).map GatePatch.aim := by
  obtain ⟨checks, isOpen, patches, rfl, judges, patched⟩ := first
  obtain ⟨checks', isOpen', patches', rfl, judges', patched'⟩ := second
  have same : isOpen' = isOpen := by
    refine judges.again judges' ?_ ?_ status link (alike.mono ?_ ?_)
    · exact r.after_name _
    · exact r.after_hash _
    · exact List.subset_append_left _ _
    · exact List.subset_append_left _ _
  subst same
  rw [gatePatches_append, gatePatches_append, judges.unpatched, judges'.unpatched, List.nil_append, List.nil_append]
  -- What is seen of the replica the second time is what the first patch left, if one was sent.
  have seen : r.after (checks ++ patches) = (gatePatches patches).foldl (fun r x => x.onReplica r) r := by
    rw [Replica.after, gatePatches_append, judges.unpatched, List.nil_append]
  rw [seen] at patched'
  rcases patched.sent with ⟨shown, none⟩ | ⟨differs, since, accepted, one⟩
  · rw [none] at patched' ⊢
    rcases patched'.sent with ⟨-, none'⟩ | ⟨differs, -⟩
    · rw [none']
      rfl
    · exact absurd shown differs
  · rw [one] at patched' ⊢
    cases accepted with
    | true =>
        have stored : ([⟨r.name, isOpen', since, true⟩] : List GatePatch).foldl (fun r x => x.onReplica r) r =
            { r with serving := some isOpen' } := if_pos ⟨rfl, rfl⟩
        rw [stored] at patched'
        rcases patched'.sent with ⟨-, none'⟩ | ⟨differs', -⟩
        · rw [none']
          rfl
        · exact absurd rfl differs'
    | false =>
        have left : ([⟨r.name, isOpen', since, false⟩] : List GatePatch).foldl (fun r x => x.onReplica r) r = r := by
          simp [GatePatch.onReplica]
        rw [left] at patched'
        rcases patched'.sent with ⟨shown, -⟩ | ⟨-, _, _, one'⟩
        · exact absurd shown differs
        · rw [one']
          rfl

theorem patches_of_turns {replicas : List Replica} {turns : List (List Exchange)}
    (tended : List.Forall₂ (c.Tends ns p) replicas turns) :
    ∀ x ∈ gatePatches turns.flatten, ∃ r ∈ replicas, x.pod = r.name := by
  induction tended with
  | nil => exact fun x member => nomatch member
  | @cons r turn rest turns first _ ih =>
      intro x member
      rw [List.flatten_cons, gatePatches_append] at member
      rcases List.mem_append.mp member with here | there
      · exact ⟨r, List.mem_cons_self, first.patches x here⟩
      · obtain ⟨other, among, named⟩ := ih x there
        exact ⟨other, List.mem_cons_of_mem _ among, named⟩

theorem patched_again {replicas : List Replica} {turns turns' : List (List Exchange)}
    (tended : List.Forall₂ (c.Tends ns p) replicas turns) (distinct : (replicas.map (·.name)).Nodup)
    (again : List.Forall₂ (c.Tends ns q) (replicas.map fun r => r.after turns.flatten) turns')
    (status : q.status = p.status) (link : q.link = p.link) (alike : AnswersAlike turns.flatten turns'.flatten) :
    (gatePatches turns'.flatten).map GatePatch.aim =
      ((gatePatches turns.flatten).filter (!·.accepted)).map GatePatch.aim := by
  induction tended generalizing turns' with
  | nil =>
      cases again
      rfl
  | @cons r turn rest turns first others ih =>
      obtain ⟨apart, distinct⟩ := List.nodup_cons.mp distinct
      -- The patches of the other turns leave this replica as it is, and its own patch leaves the others so.
      have here : r.after (turn ++ turns.flatten) = r.after turn := by
        rw [Replica.after_append, Replica.after_other]
        intro x member same
        obtain ⟨other, among, named⟩ := patches_of_turns others x member
        rw [Replica.after_name] at same
        exact apart (List.mem_map.mpr ⟨other, among, named.symm.trans same⟩)
      have there : ∀ r' ∈ rest, r'.after (turn ++ turns.flatten) = r'.after turns.flatten := by
        intro r' among
        have untouched : r'.after turn = r' := by
          refine Replica.after_other fun x member same => ?_
          exact apart (List.mem_map.mpr ⟨r', among, same.symm.trans (first.patches x member)⟩)
        rw [Replica.after_append, untouched]
      rw [List.flatten_cons, List.map_cons, here, List.map_congr_left there] at again
      cases again with
      | @cons _ turn' _ turns' first' others' =>
          rw [List.flatten_cons, List.flatten_cons] at alike
          rw [List.flatten_cons, List.flatten_cons, gatePatches_append, gatePatches_append, List.map_append,
            List.filter_append, List.map_append]
          rw [first.again first' status link
              (alike.mono (List.subset_append_left _ _) (List.subset_append_left _ _)),
            ih distinct others' (alike.mono (List.subset_append_right _ _) (List.subset_append_right _ _))]

/-- However the API answers the patches, the step leaves the pass as it is and tends to each replica. Where no two
generations share a pod and the accepted patches are stored, the next step patches the pods whose patch was rejected. -/
theorem gates_converge (placed : c.ns? = some ns) (p : ClusterPass) :
    (∀ answer : List Exchange → (call : Call) → call.Reply, ∃ log, (c.gateStep p).Ends log (.ok p) ∧
      ∀ before x after, log = before ++ x :: after → x.reply = answer before x.call) ∧
    (∀ log result, (c.gateStep p).Ends log result ↔ result = .ok p ∧
      ∃ turns, log = turns.flatten ∧ List.Forall₂ (c.Tends ns p) (p.generations.flatMap (·.pods)) turns) ∧
    ∀ sets (pods pods' : List StoredPod) log later q, p.generations = Generation.collect sets (pods.map (·.shown)) →
      (pods.map (·.name)).Nodup → Generation.Unshared p.generations (pods.map (·.shown)) →
      (c.gateStep p).Ends log (.ok p) → List.Forall₂ (StoredPod.Follows log) pods pods' →
      q = { p with generations := Generation.collect sets (pods'.map (·.shown)) } →
      (c.gateStep q).Ends later (.ok q) → AnswersAlike log later →
      (gatePatches later).map GatePatch.aim = ((gatePatches log).filter (!·.accepted)).map GatePatch.aim := by
  have place : c.placed = .ok ns := by
    rw [Cluster.placed, placed]
  refine ⟨fun answer => ?_, fun log result => gateStep_ends_iff place, ?_⟩
  · obtain ⟨log, result, yields, answered⟩ := Dialogue.yields_some (c.gateStep p).run answer
    obtain rfl := ((gateStep_ends_iff place).mp yields).1
    exact ⟨log, yields, answered⟩
  · rintro sets pods pods' log later q made distinct unshared ends follow rfl again alike
    obtain ⟨-, turns, rfl, tended⟩ := (gateStep_ends_iff place).mp ends
    obtain ⟨-, turns', rfl, tended'⟩ := (gateStep_ends_iff place).mp again
    dsimp only at tended'
    rw [StoredPod.shown_of_follows follow, Generation.replicas_after, ← made] at tended'
    rw [made] at unshared
    have named := Generation.replica_names (StoredPod.shown_names pods ▸ distinct) unshared
    rw [← made] at named
    exact patched_again tended named tended' rfl rfl alike

def ungatedSets : List StatefulSet :=
  [⟨some "broker-first", some "first", some 2, some ⟨100, 0⟩⟩]

def ungatedPod (name : String) : Pod :=
  ⟨name, [⟨"apps/v1", "StatefulSet", "broker-first", "", some true, some true⟩], some "first",
    [⟨"ContainersReady", true⟩]⟩

def ungatedPods : List Pod :=
  [ungatedPod "broker-first-0", ungatedPod "broker-first-1"]

def ungatedStored (name : String) : StoredPod where
  name := name
  object := podDocument name "broker-first" [(hashLabel, "first")]
  shown := ungatedPod name
  reads := rfl
  named := rfl

theorem collect_ungatedPods : Generation.collect ungatedSets ungatedPods = [⟨"broker-first", "first", 2, some ⟨100, 0⟩,
    [.ofPod (ungatedPod "broker-first-0"), .ofPod (ungatedPod "broker-first-1")]⟩] := by
  have owned : ungatedPods.filter (Generation.owns "broker-first") = ungatedPods := by decide +kernel
  have listed : ungatedPods.map Replica.ofPod =
      [.ofPod (ungatedPod "broker-first-0"), .ofPod (ungatedPod "broker-first-1")] := rfl
  simp only [Generation.collect, ungatedSets, List.filterMap_cons, List.filterMap_nil, Generation.ofSet?,
    Option.bind_eq_bind, Option.bind_some, owned, listed, mergeSort_pair, List.mergeSort_singleton, Option.getD_some]
  rfl

def ungatedPass : ClusterPass where
  status := { ClusterStatus.initial with currentGeneration := some ⟨"broker-first", "first", 2, 2⟩ }
  generations := Generation.collect ungatedSets ungatedPods
  update := some "broker-first"
  link := some (sampleLink (sampleCluster "broker:1" .initial) "broker-first-0")
  initReady := true
  requeue := .steady
  halted := false

def openedStored : StoredPod where
  name := "broker-first-1"
  object := Store.mergeConditions (Write.gatePatch true (Rfc3339.format (sampleTime 1)))
    (podDocument "broker-first-1" "broker-first" [(hashLabel, "first")])
  shown := (ungatedPod "broker-first-1").gated true
  reads := by rfl
  named := rfl

def openingTurn (pod : String) (reply : Except ApiError Unit) : List Exchange :=
  let c := sampleCluster "broker:1" .initial
  [c.check "default" (sampleLink c "broker-first-0") pod (.ok ⟨200, []⟩), ⟨.clock, sampleTime 1⟩,
    ⟨.write "default" (.setServingGate pod true (Rfc3339.format (sampleTime 1))), reply⟩]

theorem tends_opening (pod : String) (reply : Except ApiError Unit) :
    (sampleCluster "broker:1" .initial).Tends "default" ungatedPass (.ofPod (ungatedPod pod))
      (openingTurn pod reply) := by
  have current : (Replica.ofPod (ungatedPod pod)).IsCurrent ungatedPass.status := ⟨_, rfl, rfl⟩
  refine ⟨[_], true, [_, _], rfl, ⟨.inl ⟨_, .ok ⟨200, []⟩, current, rfl, rfl, rfl⟩, ?_⟩, .inr ⟨nofun, _, _, rfl⟩⟩
  exact iff_of_true rfl ⟨current, fun _ => ⟨_, _, rfl, rfl, rfl⟩⟩

theorem opening_answered {pod : String} {reply : Except ApiError Unit} {peer : Endpoint} {port : Nat}
    {credentials : Credentials} {answer : Except TransportFailure Response}
    (member : ⟨.send peer port credentials .availability, answer⟩ ∈ openingTurn pod reply) :
    answer = .ok ⟨200, []⟩ := by
  rcases List.mem_cons.mp member with same | later
  · cases same
    rfl
  · rcases List.mem_cons.mp later with same | last
    · cases same
    · cases List.mem_singleton.mp last

def rejectingWorld : (call : Call) → call.Reply
  | .clock => sampleTime 2
  | .freshKey => "key"
  | .tell _ => ()
  | .send .. => .ok ⟨200, []⟩
  | .getCluster .. | .getSecret .. | .find .. | .listJobs _ | .listSets .. | .listPods .. | .write .. =>
    .error (.answered 500)

/-- The patch of the first pod was rejected and that of the second one accepted; the first one alone is sent again. -/
theorem rejected_patch_sent_again :
    let c := sampleCluster "broker:1" .initial
    let log := [openingTurn "broker-first-0" (.error (.answered 500)), openingTurn "broker-first-1" (.ok ())].flatten
    let pods := [ungatedStored "broker-first-0", ungatedStored "broker-first-1"]
    let pods' := [ungatedStored "broker-first-0", openedStored]
    let q := { ungatedPass with generations := Generation.collect ungatedSets (pods'.map (·.shown)) }
    c.ns? = some "default" ∧ (pods.map (·.name)).Nodup ∧
    Generation.Unshared ungatedPass.generations (pods.map (·.shown)) ∧
    (c.gateStep ungatedPass).Ends log (.ok ungatedPass) ∧ List.Forall₂ (StoredPod.Follows log) pods pods' ∧
    ∃ later, (c.gateStep q).Ends later (.ok q) ∧ AnswersAlike log later ∧
      (gatePatches later).map GatePatch.aim = [("broker-first-0", true)] := by
  intro c log pods pods' q
  have placed : c.ns? = some "default" := rfl
  have distinct : (pods.map (·.name)).Nodup := by decide
  have collected : ungatedPass.generations = _ := collect_ungatedPods
  have unshared : Generation.Unshared ungatedPass.generations (pods.map (·.shown)) := by
    rw [collected]
    exact List.pairwise_singleton ..
  obtain ⟨-, told, again⟩ := gates_converge placed ungatedPass
  have ends : (c.gateStep ungatedPass).Ends log (.ok ungatedPass) := by
    refine (told _ _).mpr ⟨rfl, _, rfl, ?_⟩
    rw [collected]
    exact .cons (tends_opening _ _) (.cons (tends_opening _ _) .nil)
  have follow : List.Forall₂ (StoredPod.Follows log) pods pods' := .cons ⟨rfl, rfl⟩ (.cons ⟨rfl, rfl⟩ .nil)
  obtain ⟨later, endsAgain, answered⟩ := (gates_converge placed q).1 fun _ => rejectingWorld
  have alike : AnswersAlike log later := by
    intro peer port credentials reply reply' member member'
    obtain ⟨turn, among, asked⟩ := List.mem_flatten.mp member
    obtain ⟨before, after, split⟩ := List.append_of_mem member'
    have here : reply = .ok ⟨200, []⟩ := by
      rcases List.mem_cons.mp among with rfl | last
      · exact opening_answered asked
      · rw [List.mem_singleton.mp last] at asked
        exact opening_answered asked
    exact here.trans (answered before _ after split).symm
  exact ⟨placed, distinct, unshared, ends, follow, later, endsAgain, alike,
    again ungatedSets pods pods' log later q rfl distinct unshared ends follow rfl endsAgain alike⟩

end Cluster

end BrokerFleet
