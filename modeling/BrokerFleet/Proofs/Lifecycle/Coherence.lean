import BrokerFleet.Pass.Cluster
import BrokerFleet.Proofs.Conditions
import BrokerFleet.Proofs.Generations

/-!
Which statuses of a cluster there are. A status only changes by events: an observation advances it, and
in between a pass may note how it went, the nodes, the evacuations and the generation it has seen. From the
initial status no sequence of events leads to one whose state, conditions and update disagree.
-/

namespace BrokerFleet

namespace ClusterStatus

/-- What happens to the status of a cluster. -/
inductive Event where
  | advance (o : Observation) (now : Instant)
  | reconciled (failure : Option (Step × Failure)) (requeue : Requeue) (now : Instant)
  | evacuations (records : List Evacuation)
  | nodes (nodes : List ClusterNode)
  | observedGeneration (generation : Option Int64)

def apply (s : ClusterStatus) : Event → ClusterStatus
  | .advance o now => (s.advance o now).1
  | .reconciled failure requeue now => s.setCondition (Cluster.reconciledCondition failure requeue) now
  | .evacuations records =>
    { s with blueGreenUpdate := s.blueGreenUpdate.map fun u => { u with evacuations := records } }
  | .nodes nodes => { s with nodes }
  | .observedGeneration observedGeneration => { s with observedGeneration }

def after (s : ClusterStatus) (events : List Event) : ClusterStatus :=
  events.foldl apply s

def Event.IsNote : Event → Prop
  | .advance .. => False
  | _ => True

/-- What advances the status was observed, or there was nothing to observe yet. -/
def Event.IsObserved : Event → Prop
  | .advance o _ =>
    (∃ (c : Cluster) (initReady : Bool) (nodes : List ClusterNode) (generations : List Generation)
      (update : Option String), o = c.observe initReady nodes generations update) ∨
    ∃ capability desired, o = .pending capability desired
  | _ => True

/-- State, conditions and update of the status agree. -/
structure Coherent (s : ClusterStatus) : Prop where
  distinct : s.conditions.Distinct
  ready : s.conditions.holds Condition.initResourceReady = true ↔
    s.currentState = .running ∨ s.currentState = .blueGreenUpdating
  updating : s.blueGreenUpdate.isSome = true ↔ s.conditions.holds Condition.blueGreenUpdating = true
  place : s.blueGreenUpdate.isSome = true →
    s.currentState = .blueGreenUpdating ∨ s.currentState = .initResourceReady

def Apart (s : ClusterStatus) : Prop :=
  ∀ u, s.blueGreenUpdate = some u → u.originGeneration ≠ u.currentGeneration

variable {s : ClusterStatus} {o : Observation} {now : Instant} {c : Condition}

@[simp] theorem after_cons {e : Event} {events : List Event} :
    s.after (e :: events) = (s.apply e).after events := rfl

theorem after_append {first rest : List Event} : s.after (first ++ rest) = (s.after first).after rest :=
  List.foldl_append

/-! ### Entering conditions -/

@[simp] theorem setCondition_currentState : (s.setCondition c now).currentState = s.currentState := rfl

@[simp] theorem setCondition_blueGreenUpdate :
    (s.setCondition c now).blueGreenUpdate = s.blueGreenUpdate := rfl

theorem setCondition_distinct (distinct : s.conditions.Distinct) :
    (s.setCondition c now).conditions.Distinct :=
  Conditions.distinct_set distinct

theorem setCondition_holds (distinct : s.conditions.Distinct) (type : String) :
    (s.setCondition c now).conditions.holds type =
      if type = c.type then c.holds else s.conditions.holds type :=
  Conditions.holds_set distinct

/-! ### The ways to advance -/

/-- The status that has recorded an observation, before it says anything of an update. -/
def recorded (s : ClusterStatus) (o : Observation) (now : Instant) : ClusterStatus :=
  ((s.setCondition (.new Condition.initResourceReady true "ResourcesReady" "") now).record
    (s.currentState.next o) o).setCondition (runningCondition o) now

theorem next_of_proceeds (proceeds : s.currentState.next o ≠ .initResourceReady) :
    s.currentState.next o =
      if 1 < o.liveGenerations ∧ o.capability.supportsBlueGreen = true then .blueGreenUpdating
      else .running := by
  unfold ClusterState.next at proceeds ⊢
  split at proceeds
  · exact absurd rfl proceeds
  · next notEmpty =>
    rw [if_neg notEmpty]
    split at proceeds
    · exact absurd rfl proceeds
    · next present => rw [if_neg present]

theorem advance_cases (s : ClusterStatus) (o : Observation) (now : Instant) :
    (s.currentState.next o = .initResourceReady ∧ s.advance o now = (s.awaitResources now, .halt)) ∨
    (s.currentState.next o = .running ∧ o.liveGenerations ≤ 1 ∧
      s.advance o now = ((s.recorded o now).finishUpdate now, .continue)) ∨
    (s.currentState.next o = .blueGreenUpdating ∧ 1 < o.liveGenerations ∧
      o.capability.supportsBlueGreen = true ∧
      s.advance o now = ((s.recorded o now).continueUpdate o now, .continue)) ∨
    (s.currentState.next o = .running ∧ 1 < o.liveGenerations ∧
      o.capability.supportsBlueGreen = false ∧
      s.advance o now = ((s.recorded o now).refuseUpdate o now, .fatal (unsupportedText o))) := by
  by_cases waits : s.currentState.next o = .initResourceReady
  · exact .inl ⟨waits, by simp [advance, waits]⟩
  · have state := next_of_proceeds waits
    by_cases single : o.liveGenerations ≤ 1
    · have running : s.currentState.next o = .running := by
        rw [state, if_neg fun h => by omega]
      refine .inr (.inl ⟨running, single, ?_⟩)
      unfold advance
      rw [if_neg waits, if_pos single]
      rfl
    · cases supports : o.capability.supportsBlueGreen with
      | true =>
          refine .inr (.inr (.inl ⟨?_, by omega, rfl, ?_⟩))
          · rw [state, if_pos ⟨by omega, supports⟩]
          · unfold advance
            rw [if_neg waits, if_neg single, if_pos supports]
            rfl
      | false =>
          refine .inr (.inr (.inr ⟨?_, by omega, rfl, ?_⟩))
          · rw [state, if_neg fun h => by simp [supports] at h]
          · unfold advance
            rw [if_neg waits, if_neg single, supports]
            rfl

theorem advance_of_several (left : s.currentState ≠ .empty) (ready : o.initReady = true)
    (several : 1 < o.liveGenerations) (supports : o.capability.supportsBlueGreen = true) :
    s.advance o now = ((s.recorded o now).continueUpdate o now, .continue) := by
  have next : s.currentState.next o = .blueGreenUpdating := by
    unfold ClusterState.next
    rw [if_neg left, ready, if_neg (by decide), if_pos ⟨several, supports⟩]
  rcases advance_cases s o now with ⟨h, -⟩ | ⟨h, -, -⟩ | ⟨-, -, -, h⟩ | ⟨h, -, -, -⟩
  · cases next.symm.trans h
  · cases next.symm.trans h
  · exact h
  · cases next.symm.trans h

@[simp] theorem runningCondition_type : (runningCondition o).type = Condition.running := by
  unfold runningCondition
  split <;> rfl

@[simp] theorem runningCondition_holds : (runningCondition o).holds = o.isRunning := by
  unfold runningCondition
  split
  · next h => rw [Condition.holds_new, h]
  · next h => rw [Condition.holds_new, Bool.eq_false_iff.mpr h]

theorem recorded_distinct (distinct : s.conditions.Distinct) : (s.recorded o now).conditions.Distinct :=
  setCondition_distinct (setCondition_distinct (s := s) distinct)

theorem recorded_holds (distinct : s.conditions.Distinct) (type : String) :
    (s.recorded o now).conditions.holds type =
      if type = Condition.running then o.isRunning
      else if type = Condition.initResourceReady then true
      else s.conditions.holds type := by
  have readyDistinct :
      ((s.setCondition (.new Condition.initResourceReady true "ResourcesReady" "") now).record
        (s.currentState.next o) o).conditions.Distinct := setCondition_distinct distinct
  rw [recorded, setCondition_holds readyDistinct, runningCondition_type, runningCondition_holds]
  exact congrArg (ite _ _) (setCondition_holds distinct type)

@[simp] theorem recorded_blueGreenUpdate : (s.recorded o now).blueGreenUpdate = s.blueGreenUpdate := rfl

/-! ### Coherence -/

theorem awaitResources_coherent (coherent : s.Coherent) : (s.awaitResources now).Coherent := by
  have waiting : ({ s with currentState := .initResourceReady } : ClusterStatus).conditions.Distinct :=
    coherent.distinct
  constructor
  · exact setCondition_distinct waiting
  · unfold awaitResources
    rw [setCondition_holds waiting]
    simp [Condition.new, Condition.holds]
  · unfold awaitResources
    rw [setCondition_holds waiting, setCondition_blueGreenUpdate, coherent.updating]
    simp [Condition.new, Condition.blueGreenUpdating, Condition.initResourceReady]
  · intro _
    exact .inr rfl

theorem settled_coherent {update : Option BlueGreenUpdate} (distinct : s.conditions.Distinct)
    (state : s.currentState.next o = .running ∨ s.currentState.next o = .blueGreenUpdating)
    (type : c.type = Condition.blueGreenUpdating) (agrees : update.isSome = c.holds)
    (place : update.isSome = true → s.currentState.next o = .blueGreenUpdating) :
    ({ s.recorded o now with blueGreenUpdate := update }.setCondition c now).Coherent := by
  have updated : ({ s.recorded o now with blueGreenUpdate := update } : ClusterStatus).conditions.Distinct :=
    recorded_distinct distinct
  constructor
  · exact setCondition_distinct updated
  · rw [setCondition_holds updated, type, if_neg (by decide)]
    dsimp only
    rw [recorded_holds distinct, if_neg (by decide), if_pos rfl]
    exact iff_of_true rfl state
  · rw [setCondition_holds updated, type, if_pos rfl, ← agrees]
    exact Iff.rfl
  · intro h
    exact .inl (place h)

theorem finishUpdate_coherent (coherent : s.Coherent) (running : s.currentState.next o = .running) :
    ((s.recorded o now).finishUpdate now).Coherent := by
  unfold finishUpdate
  split
  · exact settled_coherent coherent.distinct (.inl running) rfl rfl fun h => nomatch h
  · next none =>
    rw [recorded_blueGreenUpdate, recorded_holds coherent.distinct, if_neg (by decide),
      if_neg (by decide), Bool.or_eq_true, not_or] at none
    constructor
    · exact recorded_distinct coherent.distinct
    · rw [recorded_holds coherent.distinct, if_neg (by decide), if_pos rfl]
      exact iff_of_true rfl (.inl running)
    · rw [recorded_holds coherent.distinct, if_neg (by decide), if_neg (by decide)]
      exact coherent.updating
    · intro h
      exact absurd h none.1

theorem continueUpdate_coherent (coherent : s.Coherent)
    (updating : s.currentState.next o = .blueGreenUpdating) :
    ((s.recorded o now).continueUpdate o now).Coherent := by
  unfold continueUpdate
  cases (s.recorded o now).chooseUpdate o now with
  | none => exact settled_coherent coherent.distinct (.inr updating) rfl rfl fun _ => updating
  | some _ => exact settled_coherent coherent.distinct (.inr updating) rfl rfl fun _ => updating

theorem refuseUpdate_coherent (coherent : s.Coherent) (running : s.currentState.next o = .running) :
    ((s.recorded o now).refuseUpdate o now).Coherent :=
  settled_coherent coherent.distinct (.inl running) rfl rfl fun h => nomatch h

theorem advance_coherent (coherent : s.Coherent) : (s.advance o now).1.Coherent := by
  rcases advance_cases s o now with
    ⟨-, h⟩ | ⟨running, -, h⟩ | ⟨updating, -, -, h⟩ | ⟨running, -, -, h⟩
  · rw [h]
    exact awaitResources_coherent coherent
  · rw [h]
    exact finishUpdate_coherent coherent running
  · rw [h]
    exact continueUpdate_coherent coherent updating
  · rw [h]
    exact refuseUpdate_coherent coherent running

theorem reconciledCondition_type {failure : Option (Step × Failure)} {requeue : Requeue} :
    (Cluster.reconciledCondition failure requeue).type = Condition.reconciled := by
  unfold Cluster.reconciledCondition
  split <;> rfl

theorem note_holds {e : Event} (note : e.IsNote) (distinct : s.conditions.Distinct) {type : String}
    (other : type ≠ Condition.reconciled) :
    (s.apply e).conditions.holds type = s.conditions.holds type := by
  cases e with
  | advance o now => exact note.elim
  | reconciled failure requeue now =>
      apply (setCondition_holds distinct type).trans
      rw [reconciledCondition_type, if_neg other]
  | evacuations records => rfl
  | nodes nodes => rfl
  | observedGeneration generation => rfl

theorem note_distinct {e : Event} (note : e.IsNote) (distinct : s.conditions.Distinct) :
    (s.apply e).conditions.Distinct := by
  cases e with
  | advance o now => exact note.elim
  | reconciled failure requeue now => exact setCondition_distinct distinct
  | evacuations records => exact distinct
  | nodes nodes => exact distinct
  | observedGeneration generation => exact distinct

theorem note_currentState {e : Event} (note : e.IsNote) : (s.apply e).currentState = s.currentState := by
  cases e with
  | advance o now => exact note.elim
  | reconciled failure requeue now => rfl
  | evacuations records => rfl
  | nodes nodes => rfl
  | observedGeneration generation => rfl

theorem note_blueGreenUpdate {e : Event} (note : e.IsNote) :
    (s.apply e).blueGreenUpdate = s.blueGreenUpdate ∨
      ∃ records, (s.apply e).blueGreenUpdate =
        s.blueGreenUpdate.map fun u => { u with evacuations := records } := by
  cases e with
  | advance o now => exact note.elim
  | reconciled failure requeue now => exact .inl rfl
  | evacuations records => exact .inr ⟨records, rfl⟩
  | nodes nodes => exact .inl rfl
  | observedGeneration generation => exact .inl rfl

theorem note_coherent {e : Event} (note : e.IsNote) (coherent : s.Coherent) : (s.apply e).Coherent := by
  have present : (s.apply e).blueGreenUpdate.isSome = s.blueGreenUpdate.isSome := by
    rcases note_blueGreenUpdate (s := s) note with h | ⟨records, h⟩
    · rw [h]
    · rw [h, Option.isSome_map]
  constructor
  · exact note_distinct note coherent.distinct
  · rw [note_holds note coherent.distinct (by decide), note_currentState note]
    exact coherent.ready
  · rw [note_holds note coherent.distinct (by decide), present]
    exact coherent.updating
  · rw [note_currentState note, present]
    exact coherent.place

theorem apply_coherent {e : Event} (coherent : s.Coherent) : (s.apply e).Coherent := by
  cases e with
  | advance o now => exact advance_coherent coherent
  | reconciled failure requeue now => exact note_coherent trivial coherent
  | evacuations records => exact note_coherent trivial coherent
  | nodes nodes => exact note_coherent trivial coherent
  | observedGeneration generation => exact note_coherent trivial coherent

theorem initial_coherent : initial.Coherent where
  distinct := List.nodup_nil
  ready := by decide
  updating := by decide
  place := fun h => nomatch h

theorem after_coherent {events : List Event} (coherent : s.Coherent) : (s.after events).Coherent := by
  induction events generalizing s with
  | nil => exact coherent
  | cons e rest ih => exact ih (apply_coherent coherent)

/-! ### States -/

@[simp] theorem finishUpdate_currentState : (s.finishUpdate now).currentState = s.currentState := by
  unfold finishUpdate
  split <;> rfl

theorem advance_currentState : (s.advance o now).1.currentState = s.currentState.next o := by
  rcases advance_cases s o now with
    ⟨waits, h⟩ | ⟨-, -, h⟩ | ⟨-, -, -, h⟩ | ⟨-, -, -, h⟩
  · rw [h, waits]
    rfl
  · rw [h]
    exact finishUpdate_currentState
  · rw [h]
    rfl
  · rw [h]
    rfl

theorem advance_nodes : (s.advance o now).1.nodes = s.nodes := by
  rcases advance_cases s o now with
    ⟨-, h⟩ | ⟨-, -, h⟩ | ⟨-, -, -, h⟩ | ⟨-, -, -, h⟩
  · rw [h]
    rfl
  · rw [h]
    unfold finishUpdate
    split <;> rfl
  · rw [h]
    rfl
  · rw [h]
    rfl

theorem next_ne_empty {state : ClusterState} : state.next o ≠ .empty := by
  unfold ClusterState.next
  split
  · decide
  · split
    · decide
    · split <;> decide

theorem after_ne_empty {events : List Event} (left : s.currentState ≠ .empty) :
    (s.after events).currentState ≠ .empty := by
  induction events generalizing s with
  | nil => exact left
  | cons e rest ih =>
      apply ih
      cases e with
      | advance o now =>
          apply ne_of_eq_of_ne advance_currentState
          exact next_ne_empty
      | reconciled failure requeue now => exact left
      | evacuations records => exact left
      | nodes nodes => exact left
      | observedGeneration generation => exact left

/-! ### Updates -/

theorem observe_origin_ne {c : Cluster} {initReady : Bool} {nodes : List ClusterNode}
    {generations : List Generation} {name : Option String} {update : GenerationStatus} {origin : String}
    (hupdate : (c.observe initReady nodes generations name).update = some update)
    (horigin : (c.observe initReady nodes generations name).origin = some origin) :
    origin ≠ update.name := by
  cases name with
  | none => cases hupdate
  | some name =>
      obtain ⟨g, found, rfl⟩ := Option.map_eq_some_iff.mp hupdate
      obtain ⟨oldest, first, rfl⟩ := Option.map_eq_some_iff.mp horigin
      have named : g.name = name := (Generation.find?_spec found).2
      show oldest.name ≠ g.name
      rw [named]
      exact (Generation.origin?_spec first).2.2

/-- An update that is chosen is the one that was going on, or it begins now and goes from the origin to the
update generation. -/
theorem chooseUpdate_cases {u : BlueGreenUpdate} (h : s.chooseUpdate o now = some u) :
    s.blueGreenUpdate = some u ∨
      ∃ update origin, o.updateServes = true ∧ o.update = some update ∧ o.origin = some origin ∧
        u = ⟨origin, update.name, Rfc3339.format now, []⟩ := by
  unfold chooseUpdate at h
  split at h
  · next update origin serves hupdate horigin =>
    split at h
    · exact .inl h
    · cases h
      exact .inr ⟨update, origin, serves, hupdate, horigin, rfl⟩
  · exact .inl h

theorem advance_apart (apart : s.Apart) (observed : (Event.advance o now).IsObserved) :
    (s.advance o now).1.Apart := by
  intro u found
  rcases advance_cases s o now with
    ⟨-, h⟩ | ⟨-, -, h⟩ | ⟨-, -, -, h⟩ | ⟨-, -, -, h⟩
  · rw [h] at found
    exact apart u found
  · rw [h] at found
    unfold finishUpdate at found
    split at found
    · cases found
    · exact apart u found
  · rw [h] at found
    rcases chooseUpdate_cases found with kept | ⟨update, origin, -, hupdate, horigin, rfl⟩
    · exact apart u kept
    · rcases observed with ⟨c, initReady, nodes, generations, name, rfl⟩ | ⟨capability, desired, rfl⟩
      · exact observe_origin_ne hupdate horigin
      · cases hupdate
  · rw [h] at found
    cases found

theorem note_apart {e : Event} (note : e.IsNote) (apart : s.Apart) : (s.apply e).Apart := by
  intro u found
  rcases note_blueGreenUpdate (s := s) note with h | ⟨records, h⟩
  · rw [h] at found
    exact apart u found
  · rw [h] at found
    obtain ⟨before, known, rfl⟩ := Option.map_eq_some_iff.mp found
    exact apart before known

theorem initial_apart : initial.Apart :=
  fun _ found => nomatch found

theorem after_apart {events : List Event} (apart : s.Apart) (observed : ∀ e ∈ events, e.IsObserved) :
    (s.after events).Apart := by
  induction events generalizing s with
  | nil => exact apart
  | cons e rest ih =>
      refine ih ?_ fun later member => observed later (List.mem_cons_of_mem _ member)
      cases e with
      | advance o now => exact advance_apart apart (observed _ List.mem_cons_self)
      | reconciled failure requeue now => exact note_apart trivial apart
      | evacuations records => exact note_apart trivial apart
      | nodes nodes => exact note_apart trivial apart
      | observedGeneration generation => exact note_apart trivial apart

/-! ### What the last observation decides -/

theorem next_eq_blueGreenUpdating (proceeds : s.currentState.next o ≠ .initResourceReady) :
    s.currentState.next o = .blueGreenUpdating ↔
      1 < o.liveGenerations ∧ o.capability.supportsBlueGreen = true := by
  rw [next_of_proceeds proceeds]
  split
  · next h => exact iff_of_true rfl h
  · next h => exact iff_of_false (by decide) h

theorem advance_running (coherent : s.Coherent) (proceeds : (s.advance o now).2 ≠ .halt) :
    (s.advance o now).1.conditions.holds Condition.running = o.isRunning := by
  have recorded : (s.recorded o now).conditions.holds Condition.running = o.isRunning := by
    rw [recorded_holds coherent.distinct, if_pos rfl]
  have entered : ∀ (update : Option BlueGreenUpdate) (c : Condition),
      c.type = Condition.blueGreenUpdating →
      ({ s.recorded o now with blueGreenUpdate := update }.setCondition c now).conditions.holds
        Condition.running = o.isRunning := by
    intro update c type
    refine Eq.trans ?_ recorded
    refine (setCondition_holds (s := { s.recorded o now with blueGreenUpdate := update })
      (recorded_distinct coherent.distinct) Condition.running).trans ?_
    rw [type, if_neg (by decide)]
  rcases advance_cases s o now with
    ⟨-, h⟩ | ⟨-, -, h⟩ | ⟨-, -, -, h⟩ | ⟨-, -, -, h⟩
  · rw [h] at proceeds
    exact absurd rfl proceeds
  · rw [h]
    unfold finishUpdate
    split
    · exact entered _ _ rfl
    · exact recorded
  · rw [h]
    unfold continueUpdate
    apply entered _ _
    unfold updateCondition
    split <;> rfl
  · rw [h]
    exact entered _ _ rfl

theorem isRunning_iff : o.isRunning = true ↔
    (o.liveGenerations ≤ 1 ∧ o.ready = o.desired) ∨
      (1 < o.liveGenerations ∧ o.serving.isSome = true ∧ o.desired ≤ o.ready) := by
  unfold Observation.isRunning
  by_cases single : o.liveGenerations ≤ 1
  · simp [single, show ¬ 1 < o.liveGenerations by omega]
  · simp [single, show 1 < o.liveGenerations by omega]

theorem notes_keep {notes : List Event} (note : ∀ e ∈ notes, e.IsNote) (coherent : s.Coherent)
    {type : String} (other : type ≠ Condition.reconciled) :
    (s.after notes).currentState = s.currentState ∧
      (s.after notes).conditions.holds type = s.conditions.holds type := by
  induction notes generalizing s with
  | nil => exact ⟨rfl, rfl⟩
  | cons e rest ih =>
      have first : e.IsNote := note e List.mem_cons_self
      have later := ih (fun e member => note e (List.mem_cons_of_mem _ member))
        (note_coherent (s := s) first coherent)
      rw [note_currentState first, note_holds first coherent.distinct other] at later
      exact later

theorem proceeds_of_outcome (proceeds : (s.advance o now).2 ≠ .halt) :
    s.currentState.next o ≠ .initResourceReady := by
  intro waits
  apply proceeds
  unfold advance
  rw [if_pos waits]

/-- Whatever happens to a status from the beginning on, it is coherent and never empty again once it was
not. An update goes from one generation to another one if all observations were made of clusters. While
nothing but notes follows an observation that did not end its pass, that observation decides whether the
cluster is updating and whether it is running. -/
theorem coherent_after_any_events (events : List Event) :
    (initial.after events).Coherent ∧
    ((initial.after events).currentState = .running → (initial.after events).blueGreenUpdate = none) ∧
    (∀ earlier later, events = earlier ++ later →
      (initial.after earlier).currentState ≠ .empty → (initial.after events).currentState ≠ .empty) ∧
    ((∀ e ∈ events, e.IsObserved) → (initial.after events).Apart) ∧
    (∀ earlier o now notes, events = earlier ++ .advance o now :: notes → (∀ e ∈ notes, e.IsNote) →
      ((initial.after earlier).advance o now).2 ≠ .halt →
      ((initial.after events).currentState = .blueGreenUpdating ↔
        1 < o.liveGenerations ∧ o.capability.supportsBlueGreen = true) ∧
      ((initial.after events).conditions.holds Condition.running = true ↔
        (o.liveGenerations ≤ 1 ∧ o.ready = o.desired) ∨
          (1 < o.liveGenerations ∧ o.serving.isSome = true ∧ o.desired ≤ o.ready))) := by
  have coherent : (initial.after events).Coherent := after_coherent initial_coherent
  refine ⟨coherent, ?_, ?_, ?_, ?_⟩
  · intro running
    cases found : (initial.after events).blueGreenUpdate with
    | none => rfl
    | some u =>
        have place := coherent.place (by rw [found]; rfl)
        rw [running] at place
        rcases place with h | h <;> cases h
  · intro earlier later same left
    subst same
    rw [after_append]
    exact after_ne_empty left
  · intro observed
    exact after_apart initial_apart observed
  · intro earlier o now notes same note proceeds
    subst same
    have before : (initial.after earlier).Coherent := after_coherent initial_coherent
    have advanced : ((initial.after earlier).advance o now).1.Coherent := advance_coherent before
    have kept := notes_keep note advanced (show Condition.running ≠ Condition.reconciled by decide)
    rw [after_append, after_cons]
    constructor
    · refine Iff.trans (Eq.congr_left ?_) (next_eq_blueGreenUpdating (proceeds_of_outcome proceeds))
      exact kept.1.trans advance_currentState
    · rw [← isRunning_iff, ← advance_running before proceeds]
      exact Eq.congr_left kept.2

end ClusterStatus

end BrokerFleet
