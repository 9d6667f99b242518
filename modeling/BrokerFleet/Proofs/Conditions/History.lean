import BrokerFleet.Proofs.Conditions
import BrokerFleet.Proofs.Instants

/-!
What a list of conditions says of all that was entered into it. For each type there is one condition. It says
what was entered last; its times are those of the last entries that brought something new, the one for the
condition as a whole and the other for its status. The list has the latest change first, and of changes at one
time the one that was entered last.
-/

namespace BrokerFleet

namespace Condition

def sameStatus (a b : Condition) : Bool :=
  a.status == b.status

theorem saysSame_iff {a b : Condition} :
    a.saysSame b = true ↔ a.status = b.status ∧ a.reason = b.reason ∧ a.message = b.message := by
  rw [saysSame, Bool.and_eq_true, Bool.and_eq_true, beq_iff_eq, beq_iff_eq, beq_iff_eq, and_assoc]

end Condition

namespace Conditions

/-- A condition that is entered, and when. -/
structure Entry where
  condition : Condition
  time : Instant
  deriving DecidableEq, Repr

/-- The list that entries lead to, in their order, from an empty one. -/
def entered (entries : List Entry) : Conditions :=
  entries.foldl (fun conditions e => conditions.set e.condition e.time) []

variable {conditions : Conditions} {past : List Entry} {e : Entry} {type : String}
  {same : Condition → Condition → Bool}

/-! ### The past of a type, latest entry first -/

def lastOf? (type : String) (past : List Entry) : Option Entry :=
  past.find? (·.condition.type == type)

/-- The past up to the last entry for a type that differs from the entry for the type before it, or is the
first one. -/
def upToChange (same : Condition → Condition → Bool) (type : String) : List Entry → List Entry
  | [] => []
  | e :: past =>
    if e.condition.type = type ∧ (lastOf? type past).any (same ·.condition e.condition) = false then e :: past
    else upToChange same type past

def lastChange? (same : Condition → Condition → Bool) (type : String) (past : List Entry) : Option Entry :=
  (upToChange same type past).head?

theorem lastOf?_cons_self : lastOf? e.condition.type (e :: past) = some e :=
  List.find?_cons_of_pos (beq_self_eq_true _)

theorem lastOf?_cons_other (other : e.condition.type ≠ type) : lastOf? type (e :: past) = lastOf? type past :=
  List.find?_cons_of_neg fun h => other (eq_of_beq h)

theorem upToChange_other (other : e.condition.type ≠ type) :
    upToChange same type (e :: past) = upToChange same type past :=
  if_neg fun h => other h.1

theorem upToChange_same {last : Entry} (found : lastOf? e.condition.type past = some last)
    (agrees : same last.condition e.condition = true) :
    upToChange same e.condition.type (e :: past) = upToChange same e.condition.type past := by
  apply if_neg
  rw [found]
  intro h
  cases agrees.symm.trans h.2

theorem upToChange_differs
    (differs : ∀ last, lastOf? e.condition.type past = some last → same last.condition e.condition = false) :
    upToChange same e.condition.type (e :: past) = e :: past := by
  apply if_pos
  refine ⟨rfl, ?_⟩
  cases found : lastOf? e.condition.type past with
  | none => rfl
  | some last => exact differs last found

theorem upToChange_length_le (type : String) (past : List Entry) :
    (upToChange same type past).length ≤ past.length := by
  induction past with
  | nil => exact Nat.le_refl _
  | cons e past ih =>
      unfold upToChange
      split
      · exact Nat.le_refl _
      · exact Nat.le_succ_of_le ih

/-! ### What the list tells -/

/-- A condition says what was entered last for its type, and has its times from the last changes. -/
structure FollowsFrom (c : Condition) (past : List Entry) : Prop where
  told : ∃ last, lastOf? c.type past = some last ∧ c.status = last.condition.status ∧
    c.reason = last.condition.reason ∧ c.message = last.condition.message
  updated : ∃ change, lastChange? Condition.saysSame c.type past = some change ∧
    c.lastUpdateTime = Rfc3339.format change.time
  turned : ∃ change, lastChange? Condition.sameStatus c.type past = some change ∧
    c.lastTransitionTime = Rfc3339.format change.time

/-- The first condition was not updated before the second one, and if both were at one time then it changed
after the second one did. -/
def Ahead (past : List Entry) (a b : Condition) : Prop :=
  instantLe b.updated? a.updated? = true ∧
    (a.updated? = b.updated? →
      (upToChange Condition.saysSame b.type past).length < (upToChange Condition.saysSame a.type past).length)

/-- The list says of each type what its past does. -/
structure Tells (past : List Entry) (conditions : Conditions) : Prop where
  distinct : conditions.Distinct
  types : ∀ type, (∃ c ∈ conditions, c.type = type) ↔ ∃ e ∈ past, e.condition.type = type
  follows : ∀ c ∈ conditions, FollowsFrom c past
  ordered : conditions.Pairwise (Ahead past)

theorem tells_nil : Tells [] [] where
  distinct := List.nodup_nil
  types _ := by simp
  follows _ member := by cases member
  ordered := List.Pairwise.nil

theorem FollowsFrom.cons_other {c : Condition} (follows : FollowsFrom c past) (other : e.condition.type ≠ c.type) :
    FollowsFrom c (e :: past) := by
  constructor
  · rw [lastOf?_cons_other other]
    exact follows.told
  · rw [lastChange?, upToChange_other other]
    exact follows.updated
  · rw [lastChange?, upToChange_other other]
    exact follows.turned

theorem Ahead.cons_other {a b : Condition} (ahead : Ahead past a b) (otherA : e.condition.type ≠ a.type)
    (otherB : e.condition.type ≠ b.type) : Ahead (e :: past) a b := by
  unfold Ahead
  rw [upToChange_other otherA, upToChange_other otherB]
  exact ahead

/-! ### An entry that says nothing new -/

theorem FollowsFrom.upToChange_kept {c : Condition} (follows : FollowsFrom c past)
    (type : c.type = e.condition.type) (agrees : c.saysSame e.condition = true) :
    upToChange Condition.saysSame c.type (e :: past) = upToChange Condition.saysSame c.type past := by
  obtain ⟨last, found, status, reason, message⟩ := follows.told
  rw [type] at found ⊢
  apply upToChange_same found
  rw [Condition.saysSame_iff] at agrees ⊢
  rw [← status, ← reason, ← message]
  exact agrees

theorem FollowsFrom.upToTurn_kept {c : Condition} (follows : FollowsFrom c past)
    (type : c.type = e.condition.type) (status : c.status = e.condition.status) :
    upToChange Condition.sameStatus c.type (e :: past) = upToChange Condition.sameStatus c.type past := by
  obtain ⟨last, found, said, -⟩ := follows.told
  rw [type] at found ⊢
  exact upToChange_same found (beq_iff_eq.mpr (said.symm.trans status))

theorem FollowsFrom.kept {c : Condition} (follows : FollowsFrom c past)
    (type : c.type = e.condition.type) (agrees : c.saysSame e.condition = true) : FollowsFrom c (e :: past) := by
  have alike := Condition.saysSame_iff.mp agrees
  constructor
  · refine ⟨e, ?_, alike⟩
    rw [type]
    exact lastOf?_cons_self
  · rw [lastChange?, follows.upToChange_kept type agrees]
    exact follows.updated
  · rw [lastChange?, follows.upToTurn_kept type alike.1]
    exact follows.turned

theorem Tells.upToChange_kept (tells : Tells past conditions) {old c : Condition} (member : old ∈ conditions)
    (type : old.type = e.condition.type) (agrees : old.saysSame e.condition = true) (among : c ∈ conditions) :
    upToChange Condition.saysSame c.type (e :: past) = upToChange Condition.saysSame c.type past := by
  by_cases other : e.condition.type = c.type
  · have known : c = old := tells.distinct.eq_of_type_eq among member (other.symm.trans type.symm)
    rw [known]
    exact (tells.follows old member).upToChange_kept type agrees
  · exact upToChange_other other

theorem Tells.kept (tells : Tells past conditions) {old : Condition} (member : old ∈ conditions)
    (type : old.type = e.condition.type) (agrees : old.saysSame e.condition = true) :
    Tells (e :: past) conditions := by
  constructor
  · exact tells.distinct
  · intro wanted
    rw [tells.types]
    constructor
    · intro h
      obtain ⟨earlier, among, named⟩ := h
      exact ⟨earlier, List.mem_cons_of_mem e among, named⟩
    · intro h
      obtain ⟨earlier, among, named⟩ := h
      rcases List.mem_cons.mp among with rfl | before
      · exact (tells.types wanted).mp ⟨old, member, type.trans named⟩
      · exact ⟨earlier, before, named⟩
  · intro c among
    by_cases other : e.condition.type = c.type
    · have known : c = old := tells.distinct.eq_of_type_eq among member (other.symm.trans type.symm)
      rw [known]
      exact (tells.follows old member).kept type agrees
    · exact (tells.follows c among).cons_other other
  · apply tells.ordered.imp_of_mem
    intro a b inA inB ahead
    unfold Ahead
    rw [tells.upToChange_kept member type agrees inA, tells.upToChange_kept member type agrees inB]
    exact ahead

/-! ### An entry that says something new -/

theorem latestFirst_cons (c : Condition) {rest : Conditions}
    (sorted : rest.Pairwise fun a b => instantLe b.updated? a.updated? = true) :
    ∃ later earlier, latestFirst (c :: rest) = later ++ c :: earlier ∧ rest = later ++ earlier ∧
      (∀ a ∈ later, instantLe a.updated? c.updated? = false) ∧
      ∀ b ∈ earlier, instantLe b.updated? c.updated? = true := by
  let order := fun a b : Condition => instantLe b.updated? a.updated?
  have trans : ∀ x y z : Condition, order x y = true → order y z = true → order x z = true :=
    fun x y z hxy hyz => instantLe_trans hyz hxy
  have total : ∀ x y : Condition, (order x y || order y x) = true :=
    fun x y => (Bool.or_eq_true ..).mpr (instantLe_total y.updated? x.updated?)
  obtain ⟨later, earlier, placed, parted, before⟩ := List.mergeSort_cons trans total c rest
  refine ⟨later, earlier, placed, ?_, ?_, ?_⟩
  · rw [← parted]
    exact (List.mergeSort_of_pairwise sorted).symm
  · intro a member
    exact (Bool.not_eq_true' _).mp (before a member)
  · have inOrder := List.pairwise_mergeSort trans total (c :: rest)
    rw [placed] at inOrder
    exact (List.pairwise_cons.mp (List.pairwise_append.mp inOrder).2.1).1

theorem stamp_alike {before : Option Condition} {c : Condition} {now : String} :
    (stamp before c now).status = c.status ∧ (stamp before c now).reason = c.reason ∧
      (stamp before c now).message = c.message :=
  ⟨rfl, rfl, rfl⟩

theorem stamp_updated {before : Option Condition} {c : Condition} {now : String} :
    (stamp before c now).lastUpdateTime = now :=
  rfl

theorem stamp_turned (before : Option Condition) (c : Condition) (now : String) :
    (∃ old, before = some old ∧ old.status = c.status ∧
      (stamp before c now).lastTransitionTime = old.lastTransitionTime) ∨
    ((∀ old, before = some old → old.status ≠ c.status) ∧ (stamp before c now).lastTransitionTime = now) := by
  cases before with
  | none => exact .inr ⟨nofun, rfl⟩
  | some old =>
      by_cases status : old.status = c.status
      · exact .inl ⟨old, rfl, status, if_pos status⟩
      · refine .inr ⟨?_, if_neg status⟩
        rintro _ ⟨⟩
        exact status

theorem Tells.last_known (tells : Tells past conditions) {last : Entry} (found : lastOf? type past = some last) :
    ∃ old, conditions.find? type = some old ∧ old ∈ conditions ∧ old.type = type ∧
      old.status = last.condition.status ∧ old.reason = last.condition.reason ∧
      old.message = last.condition.message := by
  have named := List.find?_some found
  obtain ⟨c, among, sameType⟩ := (tells.types type).mpr ⟨last, List.mem_of_find?_eq_some found, eq_of_beq named⟩
  obtain ⟨old, known⟩ : ∃ old, conditions.find? type = some old :=
    Option.isSome_iff_exists.mp (List.find?_isSome.mpr ⟨c, among, beq_iff_eq.mpr sameType⟩)
  have member := List.mem_of_find?_eq_some known
  have oldType := find?_type known
  obtain ⟨last', found', told⟩ := (tells.follows old member).told
  rw [oldType, found] at found'
  cases found'
  exact ⟨old, known, member, oldType, told⟩

theorem Tells.stamp_follows (tells : Tells past conditions)
    (novel : (conditions.find? e.condition.type).any (·.saysSame e.condition) = false) :
    upToChange Condition.saysSame e.condition.type (e :: past) = e :: past ∧
    FollowsFrom (stamp (conditions.find? e.condition.type) e.condition (Rfc3339.format e.time)) (e :: past) := by
  have changed : upToChange Condition.saysSame e.condition.type (e :: past) = e :: past := by
    apply upToChange_differs
    intro last found
    obtain ⟨old, known, -, -, status, reason, message⟩ := tells.last_known found
    rw [known] at novel
    rw [Condition.saysSame, ← status, ← reason, ← message]
    exact novel
  refine ⟨changed, ?_, ?_, ?_⟩
  · refine ⟨e, ?_, stamp_alike⟩
    rw [stamp_type]
    exact lastOf?_cons_self
  · refine ⟨e, ?_, stamp_updated⟩
    rw [stamp_type, lastChange?, changed]
    rfl
  · rw [stamp_type]
    rcases stamp_turned (conditions.find? e.condition.type) e.condition (Rfc3339.format e.time) with
      ⟨old, known, status, since⟩ | ⟨turns, since⟩
    · have member := List.mem_of_find?_eq_some known
      have oldType := find?_type known
      have follows := tells.follows old member
      rw [since, lastChange?, ← oldType, follows.upToTurn_kept oldType status]
      exact follows.turned
    · refine ⟨e, ?_, since⟩
      rw [lastChange?, upToChange_differs]
      · rfl
      · intro last found
        obtain ⟨old, known, -, -, status, -⟩ := tells.last_known found
        rw [Condition.sameStatus, ← status]
        exact beq_false_of_ne (turns old known)

theorem Tells.changed (tells : Tells past conditions)
    (novel : (conditions.find? e.condition.type).any (·.saysSame e.condition) = false) :
    Tells (e :: past) (conditions.set e.condition e.time) := by
  obtain ⟨changes, follows⟩ := tells.stamp_follows novel
  generalize stamped : stamp (conditions.find? e.condition.type) e.condition (Rfc3339.format e.time) = c at follows
  have type : c.type = e.condition.type := by
    rw [← stamped, stamp_type]
  have inOrder : (conditions.filter (·.type != e.condition.type)).Pairwise (Ahead past) :=
    tells.ordered.sublist List.filter_sublist
  obtain ⟨later, earlier, placed, parted, before, after⟩ :=
    latestFirst_cons c (inOrder.imp And.left)
  have put : conditions.set e.condition e.time = later ++ c :: earlier := by
    unfold set
    dsimp only
    rw [novel, if_neg (by decide), stamped]
    exact placed
  have rest : ∀ a ∈ later ++ earlier, a ∈ conditions ∧ e.condition.type ≠ a.type := by
    intro a member
    rw [← parted, List.mem_filter, bne_iff_ne] at member
    exact ⟨member.1, member.2.symm⟩
  have restAhead : (later ++ earlier).Pairwise (Ahead (e :: past)) := by
    rw [← parted]
    apply inOrder.imp_of_mem
    intro a b inA inB ahead
    rw [parted] at inA inB
    exact ahead.cons_other (rest a inA).2 (rest b inB).2
  constructor
  · exact distinct_set tells.distinct
  · intro wanted
    by_cases this : wanted = e.condition.type
    · constructor
      · intro h
        exact ⟨e, List.mem_cons_self, this.symm⟩
      · intro h
        refine ⟨c, ?_, type.trans this.symm⟩
        rw [put]
        exact List.mem_append_right _ List.mem_cons_self
    · have listed : (∃ a ∈ conditions.set e.condition e.time, a.type = wanted) ↔
          ∃ a ∈ conditions, a.type = wanted :=
        exists_congr fun a => and_congr_left fun named => mem_set_other fun h => this (named.symm.trans h)
      rw [listed, tells.types, List.exists_mem_cons_iff]
      exact ⟨.inr, fun h => h.resolve_left fun named => this named.symm⟩
  · intro a member
    rw [put, List.mem_append, List.mem_cons] at member
    rcases member with ahead | rfl | behind
    · obtain ⟨among, other⟩ := rest a (List.mem_append_left _ ahead)
      exact (tells.follows a among).cons_other other
    · exact follows
    · obtain ⟨among, other⟩ := rest a (List.mem_append_right _ behind)
      exact (tells.follows a among).cons_other other
  · rw [put]
    obtain ⟨laterAhead, earlierAhead, across⟩ := List.pairwise_append.mp restAhead
    refine List.pairwise_append.mpr ⟨laterAhead, List.pairwise_cons.mpr ⟨?_, earlierAhead⟩, ?_⟩
    · -- What has the same time as the new condition changed at an entry before the last one.
      intro b member
      refine ⟨after b member, fun _ => ?_⟩
      rw [type, changes, upToChange_other (rest b (List.mem_append_right _ member)).2]
      exact Nat.lt_succ_of_le (upToChange_length_le b.type past)
    · intro a inA b inB
      rcases List.mem_cons.mp inB with rfl | behind
      · refine ⟨(instantLe_total a.updated? b.updated?).resolve_left ?_, ?_⟩
        · rw [before a inA]
          decide
        · intro tie
          have notLater := before a inA
          rw [tie, instantLe_refl] at notLater
          cases notLater
      · exact across a inA b behind

/-! ### The whole history -/

theorem Tells.set (tells : Tells past conditions) : Tells (e :: past) (conditions.set e.condition e.time) := by
  cases novel : (conditions.find? e.condition.type).any (·.saysSame e.condition) with
  | false => exact tells.changed novel
  | true =>
      obtain ⟨old, found, agrees⟩ := (Option.any_eq_true ..).mp novel
      have put : conditions.set e.condition e.time = conditions := if_pos novel
      rw [put]
      exact tells.kept (List.mem_of_find?_eq_some found) (find?_type found) agrees

/-- Whatever is entered, and at whatever times, into a list that was empty: there is one condition of each type
that was entered, it says what the last entry for the type said, it was updated at the last entry for the type
that said something new and turned at the last that changed the status, and the latest update is first. -/
theorem entered_tells (entries : List Entry) : (entered entries).Tells entries.reverse := by
  rw [entered, List.foldl_eq_foldr_reverse]
  induction entries.reverse with
  | nil => exact tells_nil
  | cons e past tells => exact tells.set

end Conditions

end BrokerFleet
