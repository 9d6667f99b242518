import BrokerFleet.Proofs.Quiescence.Leading
import BrokerFleet.Proofs.Quiescence.Sight

/-!
Gates that say what they are to say. A gate step that could patch all pods leaves each of them with the gate that the
serving generation and the broker's word call for, and nothing else of a pod changed; and a step that finds all gates so
asks the broker and patches none.
-/

namespace BrokerFleet

open Kubernetes Attempt Rehearsal

namespace Surroundings

variable {w after : Surroundings} {ns selector name since other : String} {serving : Bool}

/-- The gate of the pod of that name says so, if the selector selects it. -/
def Shows (w : Surroundings) (ns selector name : String) (serving : Bool) : Prop :=
  ∀ p ∈ w.podListing ns selector, p.name = name → p.condition? servingGate = some serving

namespace SetsGate

theorem answersAs (sets : w.SetsGate ns name serving since after) : after.AnswersAs w := by
  obtain ⟨pods, -, rfl⟩ := sets
  exact ⟨rfl, rfl⟩

theorem podListing (sets : w.SetsGate ns name serving since after) : after.podListing ns selector =
    (w.podListing ns selector).map fun p => if p.name = name then p.gated serving else p := by
  obtain ⟨pods, each, rfl⟩ := sets
  unfold Surroundings.podListing
  dsimp only
  rw [Function.update_self]
  generalize w.pods ns = before at each
  induction each with
  | nil => rfl
  | @cons old pod rest others here _ ih =>
      have selected : Store.isSelected selector pod.object = Store.isSelected selector old.object := by
        split at here
        · exact here.isSelected
        · rw [here]
      have shown : pod.shown = if old.shown.name = name then old.shown.gated serving else old.shown := by
        rw [old.named]
        split at here
        · next same => rw [if_pos same, here.shown]
        · next differs => rw [if_neg differs, here]
      rw [List.filter_cons, List.filter_cons, selected]
      split
      · rw [List.map_cons, List.map_cons, List.map_cons, ih, shown]
      · exact ih

theorem ungated (sets : w.SetsGate ns name serving since after) :
    (after.podListing ns selector).map Pod.ungated = (w.podListing ns selector).map Pod.ungated := by
  rw [sets.podListing, List.map_map]
  refine List.map_congr_left fun p _ => ?_
  rw [Function.comp_apply]
  split
  · exact Pod.gated_ungated
  · rfl

theorem shows (sets : w.SetsGate ns name serving since after) : after.Shows ns selector name serving := by
  intro p member named
  rw [sets.podListing] at member
  obtain ⟨before, -, rfl⟩ := List.mem_map.mp member
  split
  · exact Pod.gated_shows
  · next differs =>
    rw [if_neg differs] at named
    exact absurd named differs

end SetsGate

theorem Shows.gate {shown : Bool} (shows : w.Shows ns selector other shown)
    (sets : w.SetsGate ns name serving since after) (agrees : name = other → serving = shown) :
    after.Shows ns selector other shown := by
  intro p member named
  rw [sets.podListing] at member
  obtain ⟨before, there, rfl⟩ := List.mem_map.mp member
  by_cases here : before.name = name
  · rw [if_pos here] at named ⊢
    rw [← agrees (here.symm.trans named)]
    exact Pod.gated_shows
  · rw [if_neg here] at named ⊢
    exact shows before there named

end Surroundings

namespace Cluster

variable {c : Cluster} {w after : Surroundings} {ns selector : String} {link : Option ManagementLink}
  {servingHash : Option String} {r r' : Replica} {isOpen : Bool} {log : List Exchange}

def Opens (c : Cluster) (w : Surroundings) (link : Option ManagementLink) (servingHash : Option String) (r : Replica)
    (isOpen : Bool) : Prop :=
  ∃ available, (c.availability link (gateOpen r.hash servingHash none) r.name).LeadsTo w (.ok available) ∧
    isOpen = gateOpen r.hash servingHash available

theorem availability_questions {serving : Bool} {pod : String} :
    (c.availability link serving pod).Asks Call.IsQuestion := by
  unfold availability
  split
  · split
    · exact asks_pure
    · refine asks_bind asks_ofExcept fun endpoint => ?_
      exact asks_bind (ManagementClient.isAvailable_asks trivial) fun _ => asks_pure
  · exact asks_pure

theorem Opens.unique {isOpen' : Bool} (opens : c.Opens w link servingHash r isOpen)
    (opens' : c.Opens w link servingHash r isOpen') : isOpen = isOpen' := by
  obtain ⟨available, leads, rfl⟩ := opens
  obtain ⟨available', leads', rfl⟩ := opens'
  rw [Except.ok.inj (leads.unique leads')]

theorem Opens.again (opens : c.Opens w link servingHash r isOpen) {w' : Surroundings} (alike : w'.AnswersAs w) :
    c.Opens w' link servingHash r isOpen := by
  obtain ⟨available, leads, same⟩ := opens
  exact ⟨available, leads.again availability_questions alike, same⟩

theorem Opens.congr (opens : c.Opens w link servingHash r isOpen) (named : r.name = r'.name)
    (hashed : r.hash = r'.hash) : c.Opens w link servingHash r' isOpen := by
  unfold Opens at opens ⊢
  rwa [← named, ← hashed]

theorem gate_ends (ends : (c.gate ns link servingHash r).Ends log (.ok ())) (along : w.Along log after) :
    ∃ isOpen, c.Opens w link servingHash r isOpen ∧
      ((r.serving = some isOpen ∧ after = w) ∨ ∃ since, w.SetsGate ns r.name isOpen since after) := by
  unfold gate at ends
  dsimp only at ends
  obtain ⟨available, first, rest, rfl, asked, follows⟩ := ends_bind_ok ends
  obtain ⟨between, before, later⟩ := Surroundings.along_append.mp along
  obtain ⟨rfl, again⟩ := asked.leadsTo availability_questions before
  refine ⟨_, ⟨available, again (.refl _), rfl⟩, ?_⟩
  split at follows
  · next same =>
    obtain ⟨rfl, -⟩ := ends_pure.mp follows
    exact .inl ⟨beq_iff_eq.mp same, Surroundings.along_nil.mp later⟩
  · obtain ⟨t, asking, rfl, sent⟩ := ends_now_bind.mp follows
    obtain ⟨reply, nothing, rfl, done⟩ := ends_call_bind.mp sent
    obtain ⟨rfl, -⟩ := ends_pure.mp done
    obtain ⟨_, rfl, patched⟩ := Surroundings.along_cons.mp later
    obtain ⟨_, ⟨-, sets⟩, last⟩ := Surroundings.along_cons.mp patched
    obtain rfl := Surroundings.along_nil.mp last
    exact .inr ⟨_, sets⟩

theorem gate_leadsTo (opens : c.Opens w link servingHash r isOpen) (shown : r.serving = some isOpen) :
    (c.gate ns link servingHash r).LeadsTo w (.ok ()) := by
  obtain ⟨available, leads, rfl⟩ := opens
  unfold gate
  dsimp only
  refine leadsTo_bind leads ?_
  rw [if_pos (beq_iff_eq.mpr shown)]
  exact leadsTo_pure

/-- What the gates of some replicas leave of the surroundings, for the pods that a selector selects: each gate that was
to be set says what it is to say, if a replica was seen with that gate only where it was there. -/
structure Gated (c : Cluster) (ns selector : String) (link : Option ManagementLink) (servingHash : Option String)
    (replicas : List Replica) (w after : Surroundings) : Prop where
  alike : after.AnswersAs w
  pods : (after.podListing ns selector).map Pod.ungated = (w.podListing ns selector).map Pod.ungated
  opens : ∀ r ∈ replicas, ∃ isOpen, c.Opens w link servingHash r isOpen
  keeps : ∀ pod isOpen, w.Shows ns selector pod isOpen →
    (∀ r ∈ replicas, r.name = pod → c.Opens w link servingHash r isOpen) → after.Shows ns selector pod isOpen
  shows : (∀ r ∈ replicas, ∀ r' ∈ replicas, r.name = r'.name → r.hash = r'.hash) →
    (∀ r ∈ replicas, ∀ isOpen, r.serving = some isOpen → c.Opens w link servingHash r isOpen →
      w.Shows ns selector r.name isOpen) →
    ∀ r ∈ replicas, ∀ isOpen, c.Opens w link servingHash r isOpen → after.Shows ns selector r.name isOpen

theorem gated_nil : c.Gated ns selector link servingHash [] w w where
  alike := .refl w
  pods := rfl
  opens _ member := nomatch member
  keeps _ _ shows _ := shows
  shows _ _ _ member := nomatch member

theorem gated_single (ends : (c.gate ns link servingHash r).Ends log (.ok ())) (along : w.Along log after) :
    c.Gated ns selector link servingHash [r] w after := by
  obtain ⟨isOpen, opens, course⟩ := gate_ends ends along
  have aims : ∀ x ∈ [r], ∃ isOpen, c.Opens w link servingHash x isOpen := by
    intro x member
    rw [List.mem_singleton.mp member]
    exact ⟨isOpen, opens⟩
  rcases course with ⟨shown, rfl⟩ | ⟨since, sets⟩
  · refine ⟨.refl _, rfl, aims, fun _ _ shows _ => shows, fun _ honest x member other aim => ?_⟩
    cases List.mem_singleton.mp member
    cases opens.unique aim
    exact honest _ member isOpen shown opens
  · refine ⟨sets.answersAs, sets.ungated, aims, fun pod shown shows agree => ?_, fun _ _ x member other aim => ?_⟩
    · exact shows.gate sets fun named => opens.unique (agree r List.mem_cons_self named)
    · cases List.mem_singleton.mp member
      cases opens.unique aim
      exact sets.shows

theorem Gated.cons {replicas : List Replica} {between : Surroundings}
    (first : c.Gated ns selector link servingHash [r] w between)
    (later : c.Gated ns selector link servingHash replicas between after) :
    c.Gated ns selector link servingHash (r :: replicas) w after := by
  have back : ∀ {x : Replica} {isOpen : Bool}, c.Opens between link servingHash x isOpen →
      c.Opens w link servingHash x isOpen := fun opens => opens.again first.alike.symm
  have onward : ∀ {x : Replica} {isOpen : Bool}, c.Opens w link servingHash x isOpen →
      c.Opens between link servingHash x isOpen := fun opens => opens.again first.alike
  refine ⟨later.alike.trans first.alike, later.pods.trans first.pods, fun x member => ?_, ?_, ?_⟩
  · rcases List.mem_cons.mp member with rfl | among
    · exact first.opens _ List.mem_cons_self
    · obtain ⟨isOpen, opens⟩ := later.opens x among
      exact ⟨isOpen, back opens⟩
  · intro pod isOpen shows agree
    have here := first.keeps pod isOpen shows fun x member => by
      rw [List.mem_singleton.mp member]
      exact agree r List.mem_cons_self
    exact later.keeps pod isOpen here fun x among named => onward (agree x (List.mem_cons_of_mem _ among) named)
  · intro hashes honest x member isOpen opens
    have sameAim : ∀ y ∈ replicas, ∀ shown, r.name = y.name → c.Opens w link servingHash y shown →
        c.Opens w link servingHash r shown := by
      intro y among shown named aim
      exact aim.congr named.symm (hashes y (List.mem_cons_of_mem _ among) r List.mem_cons_self named.symm)
    rcases List.mem_cons.mp member with rfl | among
    · have here := first.shows (fun y hy z hz _ => by rw [List.mem_singleton.mp hy, List.mem_singleton.mp hz])
        (fun y hy => by
          rw [List.mem_singleton.mp hy]
          exact honest _ List.mem_cons_self) _ List.mem_cons_self isOpen opens
      refine later.keeps _ isOpen here fun y hy named => onward ?_
      exact opens.congr named.symm (hashes _ List.mem_cons_self y (List.mem_cons_of_mem _ hy) named.symm)
    · refine later.shows (fun y hy z hz => hashes y (List.mem_cons_of_mem _ hy) z (List.mem_cons_of_mem _ hz)) ?_
        x among isOpen (onward opens)
      intro y hy shown seen aim
      refine first.keeps _ shown (honest y (List.mem_cons_of_mem _ hy) shown seen (back aim)) fun z hz named => ?_
      cases List.mem_singleton.mp hz
      exact sameAim y hy shown named (back aim)

theorem gates_end {replicas : List Replica}
    (ends : (replicas.forM (c.gate ns link servingHash)).Ends log (.ok ())) (along : w.Along log after) :
    c.Gated ns selector link servingHash replicas w after := by
  induction replicas generalizing w log with
  | nil =>
      obtain ⟨rfl, -⟩ := ends_pure.mp ends
      cases Surroundings.along_nil.mp along
      exact gated_nil
  | cons r rest ih =>
      rw [List.forM_eq_forM, List.forM_cons] at ends
      obtain ⟨_, first, later, rfl, gated, others⟩ := ends_bind_ok ends
      obtain ⟨between, before, onward⟩ := Surroundings.along_append.mp along
      exact (gated_single gated before).cons (ih others onward)

theorem gates_leadTo {replicas : List Replica}
    (say : ∀ r ∈ replicas, ∃ isOpen, c.Opens w link servingHash r isOpen ∧ r.serving = some isOpen) :
    (replicas.forM (c.gate ns link servingHash)).LeadsTo w (.ok ()) := by
  induction replicas with
  | nil => exact leadsTo_pure
  | cons r rest ih =>
      obtain ⟨isOpen, opens, shown⟩ := say r List.mem_cons_self
      rw [List.forM_eq_forM, List.forM_cons]
      exact leadsTo_bind (gate_leadsTo opens shown) (ih fun r member => say r (List.mem_cons_of_mem _ member))

end Cluster

end BrokerFleet
