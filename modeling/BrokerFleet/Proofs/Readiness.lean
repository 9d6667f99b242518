import BrokerFleet.Proofs.Pass.Unhindered

/-!
What the step of the readiness gates does. Each replica is judged, which takes a check of the replica only where it is
of the current generation and the edition can tell, and its gate is patched if it says otherwise. The step is told by
an iff: it ends with what was known before, and its exchanges are those that tend to one replica after the other,
whatever comes of the checks and patches.
-/

namespace BrokerFleet

open Kubernetes Attempt

def Replica.IsCurrent (r : Replica) (s : ClusterStatus) : Prop :=
  ∃ g, s.currentGeneration = some g ∧ r.hash = some g.hash

namespace ManagementClient

variable {client : ManagementClient} {peer : Endpoint} {log : List Exchange}

def accepts : Except TransportFailure Response → Bool
  | .ok response => response.status == 200
  | .error _ => false

theorem accepts_iff {reply : Except TransportFailure Response} :
    accepts reply = true ↔ ∃ response, reply = .ok response ∧ response.status = 200 := by
  unfold accepts
  cases reply <;> simp

theorem pathFault?_availability : Net.Target.pathFault? ManagementRequest.availability.path = none := by
  decide +kernel

theorem isAvailable_ends {ε : Type} {result : Except ε Bool} :
    (client.isAvailable peer : Attempt ε Bool).Ends log result ↔
      ∃ reply, log = [⟨.send peer client.port client.credentials .availability, reply⟩] ∧
        result = .ok (accepts reply) := by
  have sent : ∀ {log : List Exchange} {outcome : Except ManagementFailure Response},
      (client.send peer .availability).Ends log outcome ↔ ∃ reply,
        log = [⟨.send peer client.port client.credentials .availability, reply⟩] ∧
          outcome = reply.mapError ManagementFailure.transport := by
    intro log outcome
    unfold send
    rw [pathFault?_availability, ends_call_bind]
    simp only [ends_ofExcept]
    constructor
    · rintro ⟨reply, _, rfl, rfl, rfl⟩
      exact ⟨reply, rfl, rfl⟩
    · rintro ⟨reply, rfl, rfl⟩
      exact ⟨reply, [], rfl, rfl, rfl⟩
  unfold isAvailable
  rw [ends_outcome_bind]
  constructor
  · rintro ⟨_, _, rest, rfl, came, follows⟩
    obtain ⟨reply, rfl, rfl⟩ := sent.mp came
    cases reply with
    | ok response =>
        obtain ⟨rfl, rfl⟩ := ends_pure.mp follows
        exact ⟨_, rfl, rfl⟩
    | error e =>
        obtain ⟨rfl, rfl⟩ := ends_pure.mp follows
        exact ⟨_, rfl, rfl⟩
  · rintro ⟨reply, rfl, rfl⟩
    refine ⟨_, _, [], rfl, sent.mpr ⟨reply, rfl, rfl⟩, ?_⟩
    cases reply <;> exact ends_pure.mpr ⟨rfl, rfl⟩

end ManagementClient

namespace Cluster

variable {c : Cluster} {ns : String} {p : ClusterPass} {r : Replica} {log checks : List Exchange}

def check (c : Cluster) (ns : String) (link : ManagementLink) (pod : String)
    (reply : Except TransportFailure Response) : Exchange :=
  ⟨.send ⟨ns, pod, c.hostOf ns pod⟩ link.client.port link.client.credentials .availability, reply⟩

/-- What the gate of a replica is to say, and what is asked to find out. A replica is asked if it is current, the
edition can tell and there is a client, and no other one is; the gate is to be open if the replica is current and, where
the edition can tell, there is a client and the replica answered with 200. -/
structure Judges (c : Cluster) (ns : String) (p : ClusterPass) (r : Replica) (checks : List Exchange)
    (isOpen : Bool) : Prop where
  asks : (∃ link reply, r.IsCurrent p.status ∧ c.capability.supportsEvacuation = true ∧ p.link = some link ∧
      checks = [c.check ns link r.name reply]) ∨
    ¬ (r.IsCurrent p.status ∧ c.capability.supportsEvacuation = true ∧ p.link.isSome = true) ∧ checks = []
  opens : isOpen = true ↔ r.IsCurrent p.status ∧ (c.capability.supportsEvacuation = true →
    ∃ link response, p.link = some link ∧ checks = [c.check ns link r.name (.ok response)] ∧ response.status = 200)

def Patches (ns : String) (r : Replica) (isOpen : Bool) (patches : List Exchange) : Prop :=
  r.serving = some isOpen ∧ patches = [] ∨ r.serving ≠ some isOpen ∧ ∃ t reply,
    patches = [⟨.clock, t⟩, ⟨.write ns (.setServingGate r.name isOpen (Rfc3339.format t)), reply⟩]

/-- What is done about one replica. -/
def Tends (c : Cluster) (ns : String) (p : ClusterPass) (r : Replica) (log : List Exchange) : Prop :=
  ∃ checks isOpen patches, log = checks ++ patches ∧ c.Judges ns p r checks isOpen ∧ Patches ns r isOpen patches

theorem gateOpen_iff {available : Option Bool} :
    gateOpen r.hash (p.status.currentGeneration.map (·.hash)) available = true ↔
      r.IsCurrent p.status ∧ available.getD true = true := by
  unfold gateOpen Replica.IsCurrent
  cases r.hash <;> cases p.status.currentGeneration <;> simp

theorem availability_ends {link : Option ManagementLink} {serving : Bool} {pod : String}
    {result : Except Failure (Option Bool)} (place : c.placed = .ok ns) :
    (c.availability link serving pod).Ends checks result ↔
      ((serving && c.capability.supportsEvacuation) = true ∧ ∃ l reply, link = some l ∧
        checks = [c.check ns l pod reply] ∧ result = .ok (some (ManagementClient.accepts reply))) ∨
      ((serving && c.capability.supportsEvacuation) = true ∧ link = none ∧ checks = [] ∧ result = .ok (some false)) ∨
      (serving && c.capability.supportsEvacuation) = false ∧ checks = [] ∧ result = .ok none := by
  unfold availability
  by_cases asked : (serving && c.capability.supportsEvacuation) = true
  · rw [if_pos asked]
    cases link with
    | none => simp [asked, ends_pure]
    | some l =>
        simp only [asked, Pass.object, endpoint_of_placed place, ends_ofExcept_bind]
        constructor
        · rintro (⟨e, failed, -⟩ | ⟨_, same, follows⟩)
          · cases failed
          · cases same
            rcases ends_bind.mp follows with ⟨e, came, -⟩ | ⟨word, _, rest, rfl, came, done⟩
            · obtain ⟨reply, -, failed⟩ := ManagementClient.isAvailable_ends.mp came
              cases failed
            · obtain ⟨reply, rfl, same⟩ := ManagementClient.isAvailable_ends.mp came
              obtain ⟨rfl, rfl⟩ := ends_pure.mp done
              cases same
              exact .inl ⟨trivial, l, reply, rfl, rfl, rfl⟩
        · rintro (⟨-, _, reply, same, rfl, rfl⟩ | ⟨-, none, -⟩ | ⟨idle, -⟩)
          · cases same
            refine .inr ⟨_, rfl, ends_bind.mpr (.inr
              ⟨ManagementClient.accepts reply, [c.check ns l pod reply], [], rfl, ?_, ?_⟩)⟩
            · exact ManagementClient.isAvailable_ends.mpr ⟨reply, rfl, rfl⟩
            · exact ends_pure.mpr ⟨rfl, rfl⟩
          · cases none
          · cases idle
  · rw [if_neg asked, ends_pure]
    simp [asked]

theorem check_inj {link : ManagementLink} {pod : String} {reply reply' : Except TransportFailure Response}
    (same : [c.check ns link pod reply] = [c.check ns link pod reply']) : reply = reply' := by
  cases same
  rfl

def judging (c : Cluster) (p : ClusterPass) (r : Replica) : Pass (Option Bool) :=
  c.availability p.link (gateOpen r.hash (p.status.currentGeneration.map (·.hash)) none) r.name

theorem asked_iff : (gateOpen r.hash (p.status.currentGeneration.map (·.hash)) none &&
    c.capability.supportsEvacuation) = true ↔ r.IsCurrent p.status ∧ c.capability.supportsEvacuation = true := by
  rw [Bool.and_eq_true, gateOpen_iff]
  simp

theorem judging_asks (place : c.placed = .ok ns) : (∃ available, (c.judging p r).Ends checks (.ok available)) ↔
    (∃ link reply, r.IsCurrent p.status ∧ c.capability.supportsEvacuation = true ∧ p.link = some link ∧
      checks = [c.check ns link r.name reply]) ∨
    ¬ (r.IsCurrent p.status ∧ c.capability.supportsEvacuation = true ∧ p.link.isSome = true) ∧ checks = [] := by
  unfold judging
  simp only [availability_ends place, asked_iff, ← Bool.not_eq_true]
  constructor
  · rintro ⟨available, ⟨asked, l, reply, linked, rfl, -⟩ | ⟨-, unlinked, rfl, -⟩ | ⟨unasked, rfl, -⟩⟩
    · exact .inl ⟨l, reply, asked.1, asked.2, linked, rfl⟩
    · refine .inr ⟨fun asked => ?_, rfl⟩
      rw [unlinked] at asked
      cases asked.2.2
    · exact .inr ⟨fun asked => unasked ⟨asked.1, asked.2.1⟩, rfl⟩
  · rintro (⟨l, reply, current, able, linked, rfl⟩ | ⟨unasked, rfl⟩)
    · exact ⟨_, .inl ⟨⟨current, able⟩, l, reply, linked, rfl, rfl⟩⟩
    · by_cases asked : r.IsCurrent p.status ∧ c.capability.supportsEvacuation = true
      · refine ⟨_, .inr (.inl ⟨asked, ?_, rfl, rfl⟩)⟩
        by_contra linked
        exact unasked ⟨asked.1, asked.2, Option.isSome_iff_ne_none.mpr linked⟩
      · exact ⟨_, .inr (.inr ⟨asked, rfl, rfl⟩)⟩

theorem judging_opens (place : c.placed = .ok ns) {available : Option Bool}
    (ends : (c.judging p r).Ends checks (.ok available)) :
    gateOpen r.hash (p.status.currentGeneration.map (·.hash)) available = true ↔
      r.IsCurrent p.status ∧ (c.capability.supportsEvacuation = true → ∃ link response, p.link = some link ∧
        checks = [c.check ns link r.name (.ok response)] ∧ response.status = 200) := by
  rw [gateOpen_iff]
  rcases (availability_ends place).mp ends with ⟨asked, l, reply, linked, rfl, same⟩ | ⟨asked, unlinked, -, same⟩ |
    ⟨unasked, -, same⟩
  · cases same
    refine and_congr_right fun _ => ?_
    rw [Option.getD_some, ManagementClient.accepts_iff]
    constructor
    · rintro ⟨response, rfl, good⟩ -
      exact ⟨l, response, linked, rfl, good⟩
    · intro answered
      obtain ⟨l', response, linked', same, good⟩ := answered (asked_iff.mp asked).2
      cases linked.symm.trans linked'
      exact ⟨response, check_inj same, good⟩
  · cases same
    refine and_congr_right fun _ => ?_
    constructor
    · rintro ⟨⟩
    · intro answered
      obtain ⟨l, _, linked, -⟩ := answered (asked_iff.mp asked).2
      rw [unlinked] at linked
      cases linked
  · cases same
    refine and_congr_right fun current => ?_
    refine ⟨fun _ able => ?_, fun _ => rfl⟩
    rw [asked_iff.mpr ⟨current, able⟩] at unasked
    cases unasked

theorem judges_iff (place : c.placed = .ok ns) {isOpen : Bool} : c.Judges ns p r checks isOpen ↔
    ∃ available, (c.judging p r).Ends checks (.ok available) ∧
      isOpen = gateOpen r.hash (p.status.currentGeneration.map (·.hash)) available := by
  constructor
  · rintro ⟨asks, opens⟩
    obtain ⟨available, ends⟩ := (judging_asks place).mpr asks
    exact ⟨available, ends, Bool.eq_iff_iff.mpr (opens.trans (judging_opens place ends).symm)⟩
  · rintro ⟨available, ends, rfl⟩
    exact ⟨(judging_asks place).mp ⟨available, ends⟩, judging_opens place ends⟩

theorem judging_succeeds (place : c.placed = .ok ns) {result : Except Failure (Option Bool)}
    (ends : (c.judging p r).Ends checks result) : ∃ available, result = .ok available := by
  rcases (availability_ends place).mp ends with ⟨-, _, _, -, -, rfl⟩ | ⟨-, -, -, rfl⟩ | ⟨-, -, rfl⟩
  · exact ⟨_, rfl⟩
  · exact ⟨_, rfl⟩
  · exact ⟨_, rfl⟩

theorem gate_ends_iff (place : c.placed = .ok ns) {result : Except Failure Unit} :
    (c.gate ns p.link (p.status.currentGeneration.map (·.hash)) r).Ends log result ↔
      result = .ok () ∧ c.Tends ns p r log := by
  unfold gate
  constructor
  · intro ends
    rcases ends_bind.mp ends with ⟨e, failed, -⟩ | ⟨available, checks, patches, rfl, asked, follows⟩
    · obtain ⟨_, none⟩ := judging_succeeds (p := p) (r := r) place failed
      cases none
    · have judges := (judges_iff place).mpr ⟨available, asked, rfl⟩
      dsimp only at follows
      split at follows
      · next shown =>
        obtain ⟨rfl, rfl⟩ := ends_pure.mp follows
        exact ⟨rfl, _, _, _, rfl, judges, .inl ⟨beq_iff_eq.mp shown, rfl⟩⟩
      · next differs =>
        obtain ⟨t, _, rfl, sent⟩ := ends_now_bind.mp follows
        obtain ⟨reply, _, rfl, done⟩ := ends_call_bind.mp sent
        obtain ⟨rfl, rfl⟩ := ends_pure.mp done
        exact ⟨rfl, _, _, _, rfl, judges, .inr ⟨fun shown => differs (beq_iff_eq.mpr shown), t, reply, rfl⟩⟩
  · rintro ⟨rfl, checks, isOpen, patches, rfl, judges, patched⟩
    obtain ⟨available, asked, rfl⟩ := (judges_iff place).mp judges
    refine ends_bind.mpr (.inr ⟨available, checks, patches, rfl, asked, ?_⟩)
    dsimp only
    rcases patched with ⟨shown, rfl⟩ | ⟨differs, t, reply, rfl⟩
    · rw [if_pos (beq_iff_eq.mpr shown)]
      exact ends_pure.mpr ⟨rfl, rfl⟩
    · rw [if_neg fun shown => differs (beq_iff_eq.mp shown)]
      exact ends_now_bind.mpr ⟨t, _, rfl, ends_call_bind.mpr ⟨reply, [], rfl, ends_pure.mpr ⟨rfl, rfl⟩⟩⟩

theorem gates_ends_iff (place : c.placed = .ok ns) {replicas : List Replica} {result : Except Failure Unit} :
    (replicas.forM (c.gate ns p.link (p.status.currentGeneration.map (·.hash)))).Ends log result ↔
      result = .ok () ∧ ∃ turns, log = turns.flatten ∧ List.Forall₂ (c.Tends ns p) replicas turns := by
  induction replicas generalizing log with
  | nil =>
      rw [List.forM_eq_forM, List.forM_nil, ends_pure]
      constructor
      · rintro ⟨rfl, rfl⟩
        exact ⟨rfl, [], rfl, .nil⟩
      · rintro ⟨rfl, _, rfl, ⟨⟩⟩
        exact ⟨rfl, rfl⟩
  | cons r rest ih =>
      rw [List.forM_eq_forM, List.forM_cons]
      constructor
      · intro ends
        rcases ends_bind.mp ends with ⟨e, failed, -⟩ | ⟨_, turn, later, rfl, tended, others⟩
        · cases ((gate_ends_iff place).mp failed).1
        · obtain ⟨rfl, turns, rfl, rest⟩ := ih.mp others
          exact ⟨rfl, turn :: turns, rfl, .cons ((gate_ends_iff place).mp tended).2 rest⟩
      · rintro ⟨rfl, _, rfl, tended⟩
        cases tended with
        | cons first rest =>
            exact ends_bind.mpr (.inr ⟨(), _, _, rfl, (gate_ends_iff place).mpr ⟨rfl, first⟩,
              ih.mpr ⟨rfl, _, rfl, rest⟩⟩)

/-- The step leaves what is known of the pass as it is, and tends to one replica after the other, whatever the world
replies. -/
theorem gateStep_ends_iff (place : c.placed = .ok ns) {result : Except Failure ClusterPass} :
    (c.gateStep p).Ends log result ↔ result = .ok p ∧
      ∃ turns, log = turns.flatten ∧ List.Forall₂ (c.Tends ns p) (p.generations.flatMap (·.pods)) turns := by
  unfold gateStep Pass.object
  rw [place]
  constructor
  · intro ends
    obtain ⟨_, same, follows⟩ | ⟨_, same, follows⟩ := ends_ofExcept_bind.mp ends
    · cases same
    · cases same
      rcases ends_bind.mp follows with ⟨e, failed, -⟩ | ⟨_, _, _, rfl, tended, done⟩
      · cases ((gates_ends_iff place).mp failed).1
      · obtain ⟨rfl, rfl⟩ := ends_pure.mp done
        rw [List.append_nil]
        exact ⟨rfl, ((gates_ends_iff place).mp tended).2⟩
  · rintro ⟨rfl, turns, rfl, tended⟩
    refine ends_ofExcept_bind.mpr (.inr ⟨ns, rfl, ends_bind.mpr (.inr ⟨(), turns.flatten, [], ?_, ?_, ?_⟩)⟩)
    · rw [List.append_nil]
    · exact (gates_ends_iff place).mpr ⟨rfl, turns, rfl, tended⟩
    · exact ends_pure.mpr ⟨rfl, rfl⟩

theorem gateStep_comes (place : c.placed = .ok ns) (p : ClusterPass) : ∃ log, (c.gateStep p).Ends log (.ok p) := by
  obtain ⟨log, result, ends⟩ := ends_some (c.gateStep p)
  obtain ⟨rfl, -⟩ := (gateStep_ends_iff place).mp ends
  exact ⟨log, ends⟩

end Cluster

end BrokerFleet
