import BrokerFleet.Proofs.Management.BindAddress
import Mathlib.Data.List.Induction
import Mathlib.Data.List.Nodup

/-!
The ports that the listeners service publishes. They are those of the listeners that all nodes run, each of them once
and under the name of the listener that comes first by its own name, whatever the order of the nodes and of their
listeners is.
-/

namespace BrokerFleet

def ListenerPort.place (p : ListenerPort) : Int × String :=
  (p.port, p.protocol)

def NodeListeners.Runs (node : NodeListeners) (l : Listener) : Prop :=
  ∃ other ∈ node.listeners, other.running = true ∧ other.id = l.id ∧ other.type = l.type ∧ other.bind = l.bind

namespace Listener

def place? (l : Listener) : Option (Int × String) :=
  (bindPort? l.bind).map fun port : Nat => ((port : Int), l.transport)

variable {published : List ListenerPort} {p q : ListenerPort} {l m : Listener} {listeners : List Listener}
  {place : Int × String}

/-! ### Publishing one by one -/

theorem publish_of_place (reached : l.place? = some place) : publish published l =
    if published.any (·.place == place) then published else published ++ [⟨l.portName, place.2, place.1⟩] := by
  obtain ⟨port, bound, rfl⟩ := Option.map_eq_some_iff.mp reached
  simp only [publish, bound]
  rfl

theorem publish_of_none (unreached : l.place? = none) : publish published l = published := by
  simp [publish, Option.map_eq_none_iff.mp unreached]

theorem mem_publish : p ∈ publish published l ↔
    p ∈ published ∨ (l.place? = some p.place ∧ p.name = l.portName ∧ ∀ q ∈ published, q.place ≠ p.place) := by
  cases reached : l.place? with
  | none => simp [publish_of_none reached]
  | some place =>
      rw [publish_of_place reached]
      split
      · next taken =>
        obtain ⟨q, member, same⟩ := List.any_eq_true.mp taken
        constructor
        · exact Or.inl
        · rintro (before | ⟨here, -, free⟩)
          · exact before
          · cases here
            exact absurd (eq_of_beq same) (free q member)
      · next free =>
        have free : ∀ q ∈ published, q.place ≠ place := by simpa using free
        rw [List.mem_append, List.mem_singleton]
        apply or_congr_right
        constructor
        · rintro rfl
          exact ⟨rfl, rfl, free⟩
        · rintro ⟨here, named, -⟩
          cases here
          cases p
          cases named
          rfl

theorem places_publish : place ∈ (publish published l).map (·.place) ↔
    place ∈ published.map (·.place) ∨ l.place? = some place := by
  simp only [List.mem_map, mem_publish]
  constructor
  · rintro ⟨p, before | ⟨reached, -, -⟩, rfl⟩
    · exact .inl ⟨p, before, rfl⟩
    · exact .inr reached
  · rintro (⟨p, before, rfl⟩ | reached)
    · exact ⟨p, .inl before, rfl⟩
    · by_cases taken : ∃ q ∈ published, q.place = place
      · obtain ⟨q, before, same⟩ := taken
        exact ⟨q, .inl before, same⟩
      · refine ⟨⟨l.portName, place.2, place.1⟩, .inr ⟨reached, rfl, ?_⟩, rfl⟩
        intro q member same
        exact taken ⟨q, member, same⟩

theorem publish_distinct (distinct : (published.map (·.place)).Nodup) :
    ((publish published l).map (·.place)).Nodup := by
  cases reached : l.place? with
  | none => rwa [publish_of_none reached]
  | some place =>
      rw [publish_of_place reached]
      split
      · exact distinct
      · next free =>
        rw [List.map_append, List.map_singleton]
        apply distinct.append (List.nodup_singleton _)
        rw [List.disjoint_singleton]
        intro taken
        obtain ⟨q, member, same⟩ := List.mem_map.mp taken
        exact free (List.any_eq_true.mpr ⟨q, member, beq_iff_eq.mpr same⟩)

/-! ### Publishing a list -/

theorem ports_append : ports (listeners ++ [l]) = publish (ports listeners) l := by
  simp [ports]

theorem ports_distinct (listeners : List Listener) : ((ports listeners).map (·.place)).Nodup := by
  induction listeners using List.reverseRecOn with
  | nil => exact .nil
  | append_singleton listeners l ih =>
      rw [ports_append]
      exact publish_distinct ih

theorem places_ports : place ∈ (ports listeners).map (·.place) ↔ ∃ l ∈ listeners, l.place? = some place := by
  induction listeners using List.reverseRecOn with
  | nil => simp [ports]
  | append_singleton listeners l ih =>
      rw [ports_append, places_publish, ih]
      simp [or_and_right, exists_or]

theorem first_of_mem_ports (ordered : listeners.Pairwise fun a b => a.id ≤ b.id) (member : p ∈ ports listeners) :
    ∃ l ∈ listeners, l.place? = some p.place ∧ p.name = l.portName ∧
      ∀ m ∈ listeners, m.place? = some p.place → l.id ≤ m.id := by
  induction listeners using List.reverseRecOn with
  | nil => simp [ports] at member
  | append_singleton listeners last ih =>
      obtain ⟨before, -, after⟩ := List.pairwise_append.mp ordered
      simp only [List.mem_append, List.mem_singleton, or_imp, forall_and] at after ⊢
      rw [ports_append, mem_publish] at member
      rcases member with early | ⟨reached, named, free⟩
      · obtain ⟨l, listed, reached, named, least⟩ := ih before early
        refine ⟨l, .inl listed, reached, named, least, ?_⟩
        rintro m rfl _
        exact after l listed m rfl
      · refine ⟨last, .inr rfl, reached, named, ?_, ?_⟩
        · -- a listener before would have been published under that port
          intro m listed here
          obtain ⟨q, there, same⟩ := List.mem_map.mp (places_ports.mpr ⟨m, listed, here⟩)
          exact absurd same (free q there)
        · rintro m rfl _
          exact String.le_refl _

/-! ### Listeners that all nodes run -/

variable {nodes nodes' : List NodeListeners} {node : NodeListeners}

/-- All nodes run the listener, and there is one. -/
structure Shared (nodes : List NodeListeners) (l : Listener) : Prop where
  nodes_ne_nil : nodes ≠ []
  everywhere : ∀ node ∈ nodes, node.Runs l

theorem runsOn_iff : l.runsOn node = true ↔ node.Runs l := by
  simp [runsOn, agrees, NodeListeners.Runs, and_assoc]

theorem dedup_sublist (listeners : List Listener) : (dedup listeners).Sublist listeners := by
  induction listeners with
  | nil => exact .slnil
  | cons l rest ih =>
      rw [dedup]
      split
      · exact .cons_cons l (List.nil_sublist rest)
      · next m others same =>
        rw [same] at ih
        split
        · exact ih.cons l
        · exact ih.cons_cons l

theorem mem_dedup : l ∈ dedup listeners ↔ l ∈ listeners := by
  induction listeners with
  | nil => simp [dedup]
  | cons first rest ih =>
      rw [dedup]
      split
      · next none => simp_all
      · next m others same =>
        rw [same] at ih
        split
        · next equal =>
          rw [eq_of_beq equal, ih, List.mem_cons, ← ih]
          simp
        · simp only [List.mem_cons] at ih ⊢
          rw [ih]

theorem idLe_trans (a b c : Listener) (first : idLe a b = true) (later : idLe b c = true) : idLe a c = true := by
  simp only [idLe, decide_eq_true_eq] at first later ⊢
  exact String.le_trans first later

theorem idLe_total (a b : Listener) : (idLe a b || idLe b a) = true := by
  simpa [idLe] using String.le_total a.id b.id

theorem common_ordered (nodes : List NodeListeners) : (common nodes).Pairwise fun a b => a.id ≤ b.id := by
  cases nodes with
  | nil => exact .nil
  | cons first rest =>
      have sorted := List.pairwise_mergeSort idLe_trans idLe_total
        ((first.listeners.filter (·.running)).filter fun l => rest.all l.runsOn)
      simp only [idLe, decide_eq_true_eq] at sorted
      exact sorted.sublist (dedup_sublist _)

theorem mem_common : l ∈ common nodes ↔ l.running = true ∧ Shared nodes l := by
  cases nodes with
  | nil => simpa [common] using fun _ shared => shared.nodes_ne_nil rfl
  | cons first rest =>
      simp only [common, mem_dedup, List.mem_mergeSort, List.mem_filter, List.all_eq_true, runsOn_iff]
      constructor
      · rintro ⟨⟨listed, running⟩, others⟩
        refine ⟨running, List.cons_ne_nil _ _, List.forall_mem_cons.mpr ⟨?_, others⟩⟩
        exact ⟨l, listed, running, rfl, rfl, rfl⟩
      · rintro ⟨running, shared⟩
        obtain ⟨here, others⟩ := List.forall_mem_cons.mp shared.everywhere
        obtain ⟨other, listed, runs, id, type, bind⟩ := here
        obtain rfl : other = l := by
          cases other
          cases l
          simp_all
        exact ⟨⟨listed, running⟩, others⟩

/-! ### Published ports -/

/-- The listener gives its name to the port: of those that all nodes run and that are reached there, it comes first. -/
structure Leads (nodes : List NodeListeners) (place : Int × String) (l : Listener) : Prop where
  shared : Shared nodes l
  reached : l.place? = some place
  first : ∀ m, Shared nodes m → m.place? = some place → l.id ≤ m.id

theorem Leads.same_id (leads : Leads nodes place l) (other : Leads nodes place m) : l.id = m.id :=
  String.le_antisymm (leads.first m other.shared other.reached) (other.first l leads.shared leads.reached)

theorem Shared.running (shared : Shared nodes l) : { l with running := true } ∈ common nodes :=
  mem_common.mpr ⟨rfl, shared.nodes_ne_nil, shared.everywhere⟩

theorem places_common (nodes : List NodeListeners) (place : Int × String) :
    place ∈ (ports (common nodes)).map (·.place) ↔ ∃ l, Shared nodes l ∧ l.place? = some place := by
  rw [places_ports]
  constructor
  · rintro ⟨l, listed, reached⟩
    exact ⟨l, (mem_common.mp listed).2, reached⟩
  · rintro ⟨l, shared, reached⟩
    exact ⟨_, shared.running, reached⟩

theorem leads_of_mem_ports (member : p ∈ ports (common nodes)) : ∃ l, Leads nodes p.place l ∧ p.name = l.portName := by
  obtain ⟨l, listed, reached, named, least⟩ := first_of_mem_ports (common_ordered nodes) member
  refine ⟨l, ⟨(mem_common.mp listed).2, reached, ?_⟩, named⟩
  intro m shared here
  exact (least _ shared.running here :)

theorem mem_ports_common : p ∈ ports (common nodes) ↔ ∃ l, Leads nodes p.place l ∧ p.name = l.portName := by
  constructor
  · exact leads_of_mem_ports
  · rintro ⟨l, leads, named⟩
    obtain ⟨q, member, same⟩ := List.mem_map.mp ((places_common _ _).mpr ⟨l, leads.shared, leads.reached⟩)
    obtain ⟨m, leads', named'⟩ := leads_of_mem_ports member
    rw [same] at leads'
    have names : q.name = p.name := by
      rw [named, named', portName, portName, leads.same_id leads']
    obtain rfl : q = p := by
      cases p
      cases q
      simp_all [ListenerPort.place]
    exact member

/-- The same reports in another order: of the nodes, or of the listeners of a node. -/
def Reordered (nodes nodes' : List NodeListeners) : Prop :=
  ∃ between, nodes.Perm between ∧ List.Forall₂ (fun a b => a.listeners.Perm b.listeners) between nodes'

theorem runs_perm {node' : NodeListeners} (perm : node.listeners.Perm node'.listeners) : node.Runs l ↔ node'.Runs l := by
  simp only [NodeListeners.Runs, perm.mem_iff]

theorem Reordered.shared (reordered : Reordered nodes nodes') : Shared nodes l ↔ Shared nodes' l := by
  obtain ⟨between, perm, each⟩ := reordered
  have everywhere : (∀ node ∈ between, node.Runs l) ↔ ∀ node ∈ nodes', node.Runs l := by
    clear perm
    induction each with
    | nil => simp
    | cons same _ ih => rw [List.forall_mem_cons, List.forall_mem_cons, runs_perm same, ih]
  have filled : nodes ≠ [] ↔ nodes' ≠ [] := by
    rw [← List.length_pos_iff, ← List.length_pos_iff, perm.length_eq, each.length_eq]
  constructor
  · rintro ⟨some, runs⟩
    exact ⟨filled.mp some, everywhere.mp fun node member => runs node (perm.mem_iff.mpr member)⟩
  · rintro ⟨some, runs⟩
    exact ⟨filled.mpr some, fun node member => everywhere.mpr runs node (perm.mem_iff.mp member)⟩

theorem Reordered.leads (reordered : Reordered nodes nodes') : Leads nodes place l ↔ Leads nodes' place l := by
  constructor
  · rintro ⟨shared, reached, first⟩
    exact ⟨reordered.shared.mp shared, reached, fun m other => first m (reordered.shared.mpr other)⟩
  · rintro ⟨shared, reached, first⟩
    exact ⟨reordered.shared.mpr shared, reached, fun m other => first m (reordered.shared.mp other)⟩

/-- Published are the ports of the listeners that all nodes run, each once and under the name of the first of the
listeners that are reached there; the order of the reports makes no difference, and without nodes there are none. -/
theorem published_ports_are_shared (nodes : List NodeListeners) :
    ((ports (common nodes)).map fun p => (p.port, p.protocol)).Nodup ∧
    (∀ port transport, (∃ p ∈ ports (common nodes), p.port = port ∧ p.protocol = transport) ↔
      ∃ l n, Shared nodes l ∧ bindPort? l.bind = some n ∧ port = n ∧
        transport = if l.type = "quic" then "UDP" else "TCP") ∧
    (∀ p ∈ ports (common nodes), 1 ≤ p.port ∧ p.port ≤ 65535 ∧
      ∃ l, Leads nodes (p.port, p.protocol) l ∧ p.name = l.portName) ∧
    (∀ nodes', Reordered nodes nodes' → ∀ p, p ∈ ports (common nodes') ↔ p ∈ ports (common nodes)) ∧
    ports (common []) = [] := by
  refine ⟨ports_distinct _, ?_, ?_, ?_, rfl⟩
  · intro port transport
    have places := places_common nodes (port, transport)
    simp only [List.mem_map, ListenerPort.place, Prod.mk.injEq] at places
    rw [places]
    apply exists_congr
    intro l
    rw [place?]
    constructor
    · rintro ⟨shared, reached⟩
      obtain ⟨n, bound, same⟩ := Option.map_eq_some_iff.mp reached
      cases same
      exact ⟨n, shared, bound, rfl, rfl⟩
    · rintro ⟨n, shared, bound, rfl, rfl⟩
      exact ⟨shared, Option.map_eq_some_iff.mpr ⟨n, bound, rfl⟩⟩
  · intro p member
    obtain ⟨l, leads, named⟩ := leads_of_mem_ports member
    obtain ⟨n, bound, reached⟩ := Option.map_eq_some_iff.mp leads.reached
    have valid := bindPort?_valid bound
    have number : (n : Int) = p.port := congrArg Prod.fst reached
    exact ⟨by omega, by omega, l, leads, named⟩
  · intro nodes' reordered p
    rw [mem_ports_common, mem_ports_common]
    simp only [reordered.leads]

def sampleReports : List NodeListeners :=
  [⟨"first", [⟨"quic:default", "quic", ":14567", true⟩, ⟨"tcp:default", "tcp", "0.0.0.0:1883", true⟩,
      ⟨"ws:default", "ws", ":8083", true⟩]⟩,
    ⟨"second", [⟨"ws:default", "ws", ":8083", false⟩, ⟨"tcp:default", "tcp", "0.0.0.0:1883", true⟩,
      ⟨"quic:default", "quic", ":14567", true⟩]⟩]

def swappedReports : List NodeListeners :=
  [⟨"second", [⟨"tcp:default", "tcp", "0.0.0.0:1883", true⟩, ⟨"ws:default", "ws", ":8083", false⟩,
      ⟨"quic:default", "quic", ":14567", true⟩]⟩,
    ⟨"first", [⟨"quic:default", "quic", ":14567", true⟩, ⟨"ws:default", "ws", ":8083", true⟩,
      ⟨"tcp:default", "tcp", "0.0.0.0:1883", true⟩]⟩]

theorem ports_sample : ports (common sampleReports) =
    [⟨"quic-default", "UDP", 14567⟩, ⟨"tcp-default", "TCP", 1883⟩] := by
  rw [sampleReports, common, List.mergeSort_of_pairwise (by decide +kernel)]
  decide +kernel

theorem shared_ports_in_either_order : Reordered sampleReports swappedReports ∧
    ⟨"quic-default", "UDP", 14567⟩ ∈ ports (common sampleReports) ∧
    ⟨"quic-default", "UDP", 14567⟩ ∈ ports (common swappedReports) := by
  have reordered : Reordered sampleReports swappedReports :=
    ⟨_, .swap _ _ [], .cons (.swap _ _ _) (.cons (.cons _ (.swap _ _ [])) .nil)⟩
  have published : ⟨"quic-default", "UDP", 14567⟩ ∈ ports (common sampleReports) := by
    simp [ports_sample]
  exact ⟨reordered, published, ((published_ports_are_shared sampleReports).2.2.2.1 _ reordered _).mpr published⟩

/-! ### Names of published ports -/

theorem Shared.place?_of_id (distinct : ∀ node ∈ nodes, (node.listeners.map (·.id)).Nodup) (shared : Shared nodes l)
    (other : Shared nodes m) (same : l.id = m.id) : l.place? = m.place? := by
  obtain ⟨node, member⟩ := List.exists_mem_of_ne_nil nodes shared.nodes_ne_nil
  obtain ⟨a, listed, -, id, type, bind⟩ := shared.everywhere node member
  obtain ⟨b, listed', -, id', type', bind'⟩ := other.everywhere node member
  obtain rfl : a = b := List.inj_on_of_nodup_map (distinct node member) listed listed' (by rw [id, id', same])
  rw [place?, place?, Listener.transport, Listener.transport, ← type, ← bind, type', bind']

/-- The ports of the listeners service differ in name just if no two listeners that lead to ports are written as one
port name. -/
theorem service_port_names_distinct_iff (c : Cluster)
    (distinct : ∀ node ∈ nodes, (node.listeners.map (·.id)).Nodup) :
    ((c.listenersService (ports (common nodes))).ports.map (·.name)).Nodup ↔
      ∀ l m here there, Leads nodes here l → Leads nodes there m → l.portName = m.portName → l.id = m.id := by
  have names : (c.listenersService (ports (common nodes))).ports.map (·.name) =
      (ports (common nodes)).map (·.name) := by
    simp [Cluster.listenersService]
  rw [names]
  constructor
  · intro apart l m here there leads leads' same
    have first : ⟨l.portName, here.2, here.1⟩ ∈ ports (common nodes) := mem_ports_common.mpr ⟨l, leads, rfl⟩
    have second : ⟨m.portName, there.2, there.1⟩ ∈ ports (common nodes) := mem_ports_common.mpr ⟨m, leads', rfl⟩
    have one := List.inj_on_of_nodup_map apart first second same
    obtain rfl : here = there := congrArg ListenerPort.place one
    exact leads.same_id leads'
  · intro apart
    have ports := (ports_distinct (common nodes)).of_map
    refine ports.map_on fun p first q second same => ?_
    obtain ⟨l, leads, named⟩ := leads_of_mem_ports first
    obtain ⟨m, leads', named'⟩ := leads_of_mem_ports second
    have id := apart l m _ _ leads leads' (by rw [← named, ← named', same])
    have places := leads.shared.place?_of_id distinct leads'.shared id
    rw [leads.reached, leads'.reached] at places
    exact List.inj_on_of_nodup_map (ports_distinct _) first second (Option.some.inj places)

def similarReports : List NodeListeners :=
  [⟨"first", [⟨"tcp:edge-1", "tcp", "0.0.0.0:1883", true⟩, ⟨"tcp:edge_1", "tcp", "0.0.0.0:1884", true⟩]⟩]

theorem ports_similar : ports (common similarReports) =
    [⟨"tcp-edge-1", "TCP", 1883⟩, ⟨"tcp-edge-1", "TCP", 1884⟩] := by
  rw [similarReports, common, List.mergeSort_of_pairwise (by decide +kernel)]
  decide +kernel

theorem sample_names_distinct : (∀ node ∈ sampleReports, (node.listeners.map (·.id)).Nodup) ∧
    (((default : Cluster).listenersService (ports (common sampleReports))).ports.map (·.name)).Nodup ∧
    ∀ l m here there, Leads sampleReports here l → Leads sampleReports there m → l.portName = m.portName →
      l.id = m.id := by
  have distinct : ∀ node ∈ sampleReports, (node.listeners.map (·.id)).Nodup := by decide +kernel
  have names : (((default : Cluster).listenersService (ports (common sampleReports))).ports.map (·.name)).Nodup := by
    rw [ports_sample]
    decide +kernel
  exact ⟨distinct, names, (service_port_names_distinct_iff default distinct).mp names⟩

/-- Two ports of the listeners service can have one name, although no node lists two listeners of one name. -/
theorem service_port_names_repeated : ¬ ∀ (c : Cluster) (nodes : List NodeListeners),
    (∀ node ∈ nodes, (node.listeners.map (·.id)).Nodup) →
      ((c.listenersService (ports (common nodes))).ports.map (·.name)).Nodup := by
  intro always
  have names := always default similarReports (by decide +kernel)
  rw [ports_similar] at names
  revert names
  decide +kernel

end Listener

end BrokerFleet
