import BrokerFleet.Proofs.Instants
import BrokerFleet.Proofs.Lifecycle.Finishing
import BrokerFleet.Proofs.Pass.Conclusion
import BrokerFleet.Proofs.Quiescence.Sight

/-!
Statuses that stand. A status that reflects an observation is left as it is when the same is observed again, at whatever
time; and what a pass settles on after it has seen no more than one live generation reflects what it has seen. For
this no type may have two conditions: what is found of a type has to be what was entered last.
-/

namespace BrokerFleet

namespace Conditions

variable {conditions : Conditions} {c d : Condition} {now : Instant} {type : String}

def Knows (conditions : Conditions) (c : Condition) : Prop :=
  ∃ a, conditions.find? c.type = some a ∧ a.saysSame c = true

theorem knows_set : (conditions.set c now).Knows c :=
  find?_set conditions c now

theorem set_of_known (known : conditions.Knows c) : conditions.set c now = conditions := by
  obtain ⟨a, found, same⟩ := known
  have same : (conditions.find? c.type).any (·.saysSame c) = true := by
    rw [found]
    exact same
  unfold set
  exact if_pos same

theorem Knows.set (known : conditions.Knows d) (distinct : conditions.Distinct) (other : d.type ≠ c.type) :
    (conditions.set c now).Knows d := by
  obtain ⟨a, found, same⟩ := known
  have type := find?_type found
  have member : a ∈ conditions.set c now := (mem_set_other (type ▸ other)).mpr (List.mem_of_find?_eq_some found)
  exact ⟨a, type ▸ find?_of_mem (distinct_set distinct) member, same⟩

/-! ### Conditions of one type -/

theorem set_of_unknown (unknown : ¬ conditions.Knows c) : conditions.set c now = latestFirst
    (stamp (conditions.find? c.type) c (Rfc3339.format now) :: conditions.filter (·.type != c.type)) := by
  unfold set
  exact if_neg fun same => unknown ((Option.any_eq_true ..).mp same)

def ofType (type : String) (conditions : Conditions) : Conditions :=
  conditions.filter (·.type == type)

theorem find?_eq_head? : conditions.find? type = (ofType type conditions).head? :=
  List.head?_filter.symm

theorem ofType_latestFirst : ofType type (latestFirst conditions) = latestFirst (ofType type conditions) := by
  unfold ofType latestFirst
  apply filter_mergeSort
  · exact fun _ _ _ first later => instantLe_trans later first
  · exact fun _ _ => Bool.or_eq_true_iff.mpr (instantLe_total ..)

theorem ofType_set_other (unknown : ¬ conditions.Knows c) (other : type ≠ c.type) :
    ofType type (conditions.set c now) = latestFirst (ofType type conditions) := by
  have kept : ofType type (conditions.filter (·.type != c.type)) = ofType type conditions := by
    unfold ofType
    rw [List.filter_filter]
    refine List.filter_congr fun a _ => ?_
    by_cases same : a.type = type
    · simp [same, other]
    · simp [same]
  rw [set_of_unknown unknown, ofType_latestFirst, ofType, List.filter_cons_of_neg (by simpa [stamp] using other.symm)]
  exact congrArg latestFirst kept

theorem ofType_set_sorted (sorted : latestFirst (ofType type conditions) = ofType type conditions)
    (other : type ≠ c.type) : ofType type (conditions.set c now) = ofType type conditions := by
  by_cases known : conditions.Knows c
  · rw [set_of_known known]
  · rw [ofType_set_other known other, sorted]

theorem ofType_set_self (unknown : ¬ conditions.Knows c) : ∃ a, ofType c.type (conditions.set c now) = [a] := by
  have none : ofType c.type (conditions.filter (·.type != c.type)) = [] := by
    simp [ofType, List.filter_filter]
  refine ⟨stamp (conditions.find? c.type) c (Rfc3339.format now), ?_⟩
  rw [set_of_unknown unknown, ofType_latestFirst, ofType, List.filter_cons_of_pos (by simp [stamp])]
  exact (congrArg (fun rest => latestFirst (_ :: rest)) none).trans (List.mergeSort_singleton _)

end Conditions

namespace ClusterStatus

abbrev readyCondition : Condition :=
  .new Condition.initResourceReady true "ResourcesReady" ""

/-- The status says what is observed, whatever it says of an update. -/
structure Displays (s : ClusterStatus) (o : Observation) : Prop where
  proceeds : s.currentState ≠ .initResourceReady
  state : s.currentState.next o = s.currentState
  replicas : s.replicas = o.desired
  readyReplicas : s.readyReplicas = o.ready
  current : (o.serving <|> s.currentGeneration) = s.currentGeneration
  update : s.updateGeneration = o.update
  ready : s.conditions.Knows readyCondition
  running : s.conditions.Knows (runningCondition o)

/-- The status says what is observed, and that no update goes on. -/
structure Reflects (s : ClusterStatus) (o : Observation) : Prop where
  state : s.currentState = .running
  replicas : s.replicas = o.desired
  readyReplicas : s.readyReplicas = o.ready
  current : (o.serving <|> s.currentGeneration) = s.currentGeneration
  update : s.updateGeneration = o.update
  idle : s.blueGreenUpdate = none
  distinct : s.conditions.Distinct
  ready : s.conditions.Knows readyCondition
  running : s.conditions.Knows (runningCondition o)
  finished : s.conditions.holds Condition.blueGreenUpdating = false

variable {s : ClusterStatus} {o : Observation} {c : Condition} {now : Instant} {type : String}

theorem setCondition_of_known (known : s.conditions.Knows c) : s.setCondition c now = s := by
  rw [setCondition, Conditions.set_of_known known]

theorem next_next (left : s.currentState ≠ .empty) : (s.currentState.next o).next o = s.currentState.next o := by
  cases ready : o.initReady with
  | false => simp [ClusterState.next, left, ready]
  | true =>
      by_cases several : 1 < o.liveGenerations ∧ o.capability.supportsBlueGreen = true
      · simp [ClusterState.next, left, ready, several]
      · simp [ClusterState.next, left, ready, several]

theorem recorded_displays (distinct : s.conditions.Distinct) (left : s.currentState ≠ .empty)
    (proceeds : s.currentState.next o ≠ .initResourceReady) :
    (s.recorded o now).Displays o where
  proceeds := proceeds
  state := next_next left
  replicas := rfl
  readyReplicas := rfl
  current := by
    show (o.serving <|> (o.serving <|> s.currentGeneration)) = (o.serving <|> s.currentGeneration)
    cases o.serving <;> rfl
  update := rfl
  ready := by
    apply Conditions.knows_set.set (Conditions.distinct_set distinct)
    rw [runningCondition_type]
    decide
  running := Conditions.knows_set

theorem Displays.recorded (displays : s.Displays o) : s.recorded o now = s := by
  calc s.recorded o now
      = ((s.setCondition readyCondition now).record s.currentState o).setCondition (runningCondition o) now := by
        rw [ClusterStatus.recorded, displays.state]
    _ = (s.record s.currentState o).setCondition (runningCondition o) now := by
        rw [setCondition_of_known displays.ready]
    _ = s.record s.currentState o := setCondition_of_known displays.running
    _ = s := by
        rw [record, ← displays.replicas, ← displays.readyReplicas, ← displays.update, displays.current]

theorem finishUpdate_of_finished (idle : s.blueGreenUpdate = none)
    (finished : s.conditions.holds Condition.blueGreenUpdating = false) : s.finishUpdate now = s := by
  unfold finishUpdate
  rw [idle, finished]
  rfl

theorem finishUpdate_idle : (s.finishUpdate now).blueGreenUpdate = none := by
  unfold finishUpdate
  split
  · rfl
  · next neither =>
    obtain ⟨idle, -⟩ := Bool.or_eq_false_iff.mp (Bool.not_eq_true _ ▸ neither)
    exact Option.isNone_iff_eq_none.mp (by simpa using idle)

theorem ofType_finishUpdate (sorted : (s.conditions.ofType type).latestFirst = s.conditions.ofType type)
    (other : type ≠ Condition.blueGreenUpdating) :
    (s.finishUpdate now).conditions.ofType type = s.conditions.ofType type := by
  unfold finishUpdate
  split
  · exact Conditions.ofType_set_sorted sorted other
  · rfl

theorem next_of_single (left : s.currentState ≠ .empty) (ready : o.initReady = true) (single : o.liveGenerations ≤ 1) :
    s.currentState.next o = .running := by
  rw [ClusterState.next, if_neg left, ready, if_neg (by decide), if_neg (by omega)]

theorem Reflects.displays (reflects : s.Reflects o) (ready : o.initReady = true) (single : o.liveGenerations ≤ 1) :
    s.Displays o where
  proceeds := by
    rw [reflects.state]
    decide
  state := by
    have left : s.currentState ≠ .empty := by
      rw [reflects.state]
      decide
    rw [next_of_single left ready single, reflects.state]
  replicas := reflects.replicas
  readyReplicas := reflects.readyReplicas
  current := reflects.current
  update := reflects.update
  ready := reflects.ready
  running := reflects.running

theorem Reflects.advance (reflects : s.Reflects o) (ready : o.initReady = true) (single : o.liveGenerations ≤ 1) :
    s.advance o now = (s, .continue) := by
  rw [advance_of_single (by rw [reflects.state]; decide) ready single, (reflects.displays ready single).recorded,
    finishUpdate_of_finished reflects.idle reflects.finished]

theorem advance_reflects (distinct : s.conditions.Distinct) (left : s.currentState ≠ .empty)
    (ready : o.initReady = true) (single : o.liveGenerations ≤ 1) : (s.advance o now).1.Reflects o := by
  have next := next_of_single left ready single
  have seen : (s.recorded o now).conditions.Distinct := recorded_distinct distinct
  have shown : (s.recorded o now).Displays o := by
    apply recorded_displays distinct left
    rw [next]
    decide
  rw [advance_of_single left ready single]
  unfold finishUpdate
  split
  · have apart : (runningCondition o).type ≠ Condition.blueGreenUpdating := by
      rw [runningCondition_type]
      decide
    exact ⟨next, rfl, rfl, shown.current, rfl, rfl, setCondition_distinct seen, shown.ready.set seen (by decide),
      shown.running.set seen apart, (setCondition_holds seen _).trans (if_pos rfl)⟩
  · next neither =>
    obtain ⟨idle, finished⟩ := Bool.or_eq_false_iff.mp (Bool.not_eq_true _ ▸ neither)
    have none : s.blueGreenUpdate = none := Option.isNone_iff_eq_none.mp (by simpa using idle)
    exact ⟨next, rfl, rfl, shown.current, rfl, none, seen, shown.ready, shown.running, finished⟩

theorem Reflects.setCondition (reflects : s.Reflects o) (ready : Condition.initResourceReady ≠ c.type)
    (running : Condition.running ≠ c.type) (updating : Condition.blueGreenUpdating ≠ c.type) :
    (s.setCondition c now).Reflects o where
  state := reflects.state
  replicas := reflects.replicas
  readyReplicas := reflects.readyReplicas
  current := reflects.current
  update := reflects.update
  idle := reflects.idle
  distinct := setCondition_distinct reflects.distinct
  ready := reflects.ready.set reflects.distinct ready
  running := reflects.running.set reflects.distinct (by rwa [runningCondition_type])
  finished := ((setCondition_holds reflects.distinct _).trans (if_neg updating)).trans reflects.finished

end ClusterStatus

namespace Cluster

variable {c : Cluster} {q q' : ClusterPass} {o : Observation} {now later : Instant}

theorem settled_reflects (reflects : q.status.Reflects o) : (c.settled q none now).Reflects o := by
  have type : (reconciledCondition none q.requeue).type = Condition.reconciled := ClusterStatus.reconciledCondition_type
  have noted : (q.status.setCondition (reconciledCondition none q.requeue) now).Reflects o := by
    apply reflects.setCondition <;> (rw [type]; decide)
  exact { noted with }

theorem settled_again (same : q'.status = c.settled q none now) (requeue : q'.requeue = q.requeue) :
    c.settled q' none later = c.settled q none now := by
  have said : (c.settled q none now).conditions.Knows (reconciledCondition none q.requeue) := Conditions.knows_set
  calc c.settled q' none later
      = { (c.settled q none now).setCondition (reconciledCondition none q.requeue) later with
          observedGeneration := c.metadata.generation } := by rw [settled, same, requeue]
    _ = { c.settled q none now with observedGeneration := c.metadata.generation } := by
        rw [ClusterStatus.setCondition_of_known said]
    _ = c.settled q none now := rfl

end Cluster

end BrokerFleet
