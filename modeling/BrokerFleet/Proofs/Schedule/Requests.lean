import BrokerFleet.Pass.State
import BrokerFleet.Proofs.Time.Span

/-!
What the requests of a pass come to. The first fatal one wins, and where none is fatal the earliest retry does, however
the requests are put together; their order makes a difference only to which fatal one is the first.
-/

namespace BrokerFleet

namespace Requeue

variable {r a b : Requeue} {rs others : List Requeue} {text : String} {d steady : Span}

def isFatal : Requeue → Bool
  | .fatal _ => true
  | _ => false

def after? : Requeue → Option Span
  | .retryAfter after => some after
  | _ => none

/-- What requests come to: the first fatal one, or else the earliest retry, or else the steady pace. -/
inductive ComesTo (rs : List Requeue) : Requeue → Prop where
  | fatal {text : String} (first : rs.find? isFatal = some (.fatal text)) : ComesTo rs (.fatal text)
  | retryAfter {d : Span} (mild : rs.find? isFatal = none) (shortest : d.IsShortest (rs.filterMap after?)) :
      ComesTo rs (.retryAfter d)
  | steady (mild : rs.find? isFatal = none) (unhurried : rs.filterMap after? = []) : ComesTo rs .steady

def merged (rs : List Requeue) : Requeue :=
  rs.foldl merge .steady

/-- A way to put requests together, two at a time. -/
inductive Grouping where
  | nothing
  | request (r : Requeue)
  | both (first second : Grouping)

namespace Grouping

def requests : Grouping → List Requeue
  | .nothing => []
  | .request r => [r]
  | .both first second => first.requests ++ second.requests

def merged : Grouping → Requeue
  | .nothing => .steady
  | .request r => r
  | .both first second => first.merged.merge second.merged

end Grouping

/-! ### Two requests -/

theorem steady_merge (r : Requeue) : merge .steady r = r := by
  cases r <;> rfl

theorem merge_steady (r : Requeue) : r.merge .steady = r := by
  cases r <;> rfl

theorem merge_assoc (a b c : Requeue) : (a.merge b).merge c = a.merge (b.merge c) := by
  cases a with
  | fatal text => rfl
  | steady => rw [steady_merge, steady_merge]
  | retryAfter d =>
      cases b with
      | fatal text => rfl
      | steady => rw [merge_steady, steady_merge]
      | retryAfter e =>
          cases c with
          | fatal text => rfl
          | steady => rfl
          | retryAfter f => exact congrArg (fun n => retryAfter ⟨n⟩) (Nat.min_assoc d.nanos e.nanos f.nanos)

/-! ### Any number of requests -/

theorem comesTo_nil : ComesTo [] .steady :=
  .steady rfl rfl

theorem comesTo_singleton (r : Requeue) : ComesTo [r] r := by
  cases r with
  | steady => exact .steady rfl rfl
  | retryAfter d => exact .retryAfter rfl (Span.isShortest_singleton d)
  | fatal text => exact .fatal rfl

theorem ComesTo.append (first : ComesTo rs a) (second : ComesTo others b) : ComesTo (rs ++ others) (a.merge b) := by
  have found : (rs ++ others).find? isFatal = (rs.find? isFatal).or (others.find? isFatal) := List.find?_append
  have durations : (rs ++ others).filterMap after? = rs.filterMap after? ++ others.filterMap after? :=
    List.filterMap_append
  cases first with
  | fatal here =>
      rw [here] at found
      exact .fatal found
  | retryAfter mild shortest =>
      rw [mild, Option.none_or] at found
      cases second with
      | fatal here => exact .fatal (found.trans here)
      | retryAfter mild' shortest' =>
          refine .retryAfter (found.trans mild') ?_
          rw [durations]
          exact shortest.append shortest'
      | steady mild' unhurried =>
          refine .retryAfter (found.trans mild') ?_
          rwa [durations, unhurried, List.append_nil]
  | steady mild unhurried =>
      rw [mild, Option.none_or] at found
      rw [unhurried, List.nil_append] at durations
      rw [steady_merge]
      cases second with
      | fatal here => exact .fatal (found.trans here)
      | retryAfter mild' shortest => exact .retryAfter (found.trans mild') (durations ▸ shortest)
      | steady mild' unhurried' => exact .steady (found.trans mild') (durations.trans unhurried')

theorem ComesTo.unique (first : ComesTo rs a) (second : ComesTo rs b) : a = b := by
  cases first with
  | fatal here =>
      cases second with
      | fatal there => exact Option.some.inj (here.symm.trans there)
      | retryAfter mild _ => cases here.symm.trans mild
      | steady mild _ => cases here.symm.trans mild
  | retryAfter mild shortest =>
      cases second with
      | fatal there => cases mild.symm.trans there
      | retryAfter _ shortest' => rw [shortest.unique shortest']
      | steady _ unhurried => exact absurd unhurried shortest.ne_nil
  | steady mild unhurried =>
      cases second with
      | fatal there => cases mild.symm.trans there
      | retryAfter _ shortest => exact absurd unhurried shortest.ne_nil
      | steady _ _ => rfl

theorem Grouping.comesTo (g : Grouping) : ComesTo g.requests g.merged := by
  induction g with
  | nothing => exact comesTo_nil
  | request r => exact comesTo_singleton r
  | both first second ih₁ ih₂ => exact ih₁.append ih₂

theorem ComesTo.foldl (before : ComesTo rs a) (others : List Requeue) :
    ComesTo (rs ++ others) (others.foldl merge a) := by
  induction others generalizing rs a with
  | nil => rwa [List.append_nil]
  | cons r others ih =>
      have taken := ih (before.append (comesTo_singleton r))
      rwa [List.append_assoc] at taken

theorem comesTo_merged (rs : List Requeue) : ComesTo rs (merged rs) :=
  comesTo_nil.foldl rs

theorem merged_append (rs others : List Requeue) : merged (rs ++ others) = (merged rs).merge (merged others) :=
  (comesTo_merged _).unique ((comesTo_merged rs).append (comesTo_merged others))

theorem requeue_foldl_ask (p : ClusterPass) (rs : List Requeue) :
    (rs.foldl ClusterPass.ask p).requeue = p.requeue.merge (merged rs) := by
  induction rs generalizing p with
  | nil => exact (merge_steady _).symm
  | cons r rs ih =>
      have split : merged (r :: rs) = r.merge (merged rs) := by
        rw [← List.singleton_append, merged_append, merged, List.foldl_cons, List.foldl_nil, steady_merge]
      rw [List.foldl_cons, ih, split, ← merge_assoc]
      rfl

/-! ### The order of requests, and what follows -/

theorem find?_isFatal_eq_none_iff : rs.find? isFatal = none ↔ ∀ text, .fatal text ∉ rs := by
  rw [List.find?_eq_none]
  constructor
  · exact fun mild text member => mild _ member rfl
  · intro mild r member
    cases r with
    | fatal text => exact absurd member (mild text)
    | steady => exact Bool.false_ne_true
    | retryAfter d => exact Bool.false_ne_true

theorem ComesTo.perm (comes : ComesTo rs r) (perm : rs.Perm others) :
    ComesTo others r ∨ ∃ text, r = .fatal text ∧ .fatal text ∈ rs := by
  have mild : rs.find? isFatal = none → others.find? isFatal = none := by
    simp only [find?_isFatal_eq_none_iff, perm.mem_iff]
    exact id
  cases comes with
  | fatal here => exact .inr ⟨_, rfl, List.mem_of_find?_eq_some here⟩
  | retryAfter none shortest => exact .inl (.retryAfter (mild none) (shortest.perm (perm.filterMap _)))
  | steady none unhurried =>
      have same := perm.filterMap after?
      rw [unhurried] at same
      exact .inl (.steady (mild none) same.nil_eq.symm)

theorem ComesTo.action_eq_await_iff (comes : ComesTo rs r) : r.action steady = .await ↔ ∃ text, .fatal text ∈ rs := by
  have absent : rs.find? isFatal = none → ¬ ∃ text, .fatal text ∈ rs :=
    fun mild ⟨text, member⟩ => find?_isFatal_eq_none_iff.mp mild text member
  cases comes with
  | fatal here => exact iff_of_true rfl ⟨_, List.mem_of_find?_eq_some here⟩
  | retryAfter mild _ => exact iff_of_false nofun (absent mild)
  | steady mild _ => exact iff_of_false nofun (absent mild)

theorem ComesTo.action_eq_requeue (comes : ComesTo rs r) (steady : Span) (mild : ∀ text, .fatal text ∉ rs) :
    ∃ d, r.action steady = .requeue d ∧ d.IsShortest (steady :: rs.filterMap after?) := by
  cases comes with
  | fatal here => exact absurd (List.mem_of_find?_eq_some here) (mild _)
  | @retryAfter d _ shortest =>
      have either := shortest.append (Span.isShortest_singleton steady)
      exact ⟨d.min steady, rfl, either.perm (List.perm_append_singleton steady _)⟩
  | steady _ unhurried =>
      rw [unhurried]
      exact ⟨steady, rfl, Span.isShortest_singleton steady⟩

/-- The first fatal request wins, or else the earliest retry, or else there is nothing to do; so it is for requests that
are put together in any way, and for those that a pass adds to what it asked before. Another order keeps all but which
fatal request is told. The object is left until it changes if a request is fatal, and otherwise looked at again when the
most urgent request wants it, at the steady pace at the latest. -/
theorem requests_add_up (rs : List Requeue) (steady : Span) :
    (∀ r, merged rs = r ↔ ComesTo rs r) ∧
    (∀ a b c : Requeue, (a.merge b).merge c = a.merge (b.merge c)) ∧
    (∀ r : Requeue, merge .steady r = r ∧ r.merge .steady = r) ∧
    (∀ g : Grouping, g.requests = rs → g.merged = merged rs) ∧
    (∀ p : ClusterPass, (rs.foldl ClusterPass.ask p).requeue = p.requeue.merge (merged rs)) ∧
    (∀ others, rs.Perm others → merged rs = merged others ∨ ∃ text text', merged rs = .fatal text ∧
      merged others = .fatal text' ∧ .fatal text ∈ rs ∧ .fatal text' ∈ rs) ∧
    ((merged rs).action steady = .await ↔ ∃ text, .fatal text ∈ rs) ∧
    ((∀ text, .fatal text ∉ rs) → ∃ d, (merged rs).action steady = .requeue d ∧
      d.IsShortest (steady :: rs.filterMap after?) ∧ d.nanos ≤ steady.nanos) := by
  have comes := comesTo_merged rs
  refine ⟨fun r => ⟨fun same => same ▸ comes, comes.unique⟩, merge_assoc, fun r => ⟨steady_merge r, merge_steady r⟩,
    fun g same => ?_, fun p => requeue_foldl_ask p rs, fun others perm => ?_, comes.action_eq_await_iff,
    fun mild => ?_⟩
  · have grouped := g.comesTo
    rw [same] at grouped
    exact grouped.unique comes
  · rcases comes.perm perm with same | ⟨text, told, member⟩
    · exact .inl (same.unique (comesTo_merged others))
    · rcases (comesTo_merged others).perm perm.symm with same | ⟨text', told', member'⟩
      · exact .inl (comes.unique same)
      · exact .inr ⟨text, text', told, told', member, perm.mem_iff.mpr member'⟩
  · obtain ⟨d, acts, shortest⟩ := comes.action_eq_requeue steady mild
    exact ⟨d, acts, shortest, shortest.least steady List.mem_cons_self⟩

def mildRequests : List Requeue :=
  [.retryAfter (.ofSeconds 5), .steady, .retryAfter (.ofSeconds 1)]

def fatalRequests : List Requeue :=
  [.fatal "first", .retryAfter (.ofSeconds 1), .fatal "second"]

/-- The retry in a second is what counts, in whichever way the three are put together; of two fatal requests, the order
decides which one is told. -/
theorem earliest_retry_wins :
    (∀ text, .fatal text ∉ mildRequests) ∧
    (∃ d, (merged mildRequests).action (.ofSeconds 20) = .requeue d ∧ d = .ofSeconds 1) ∧
    (Grouping.both (.request (.retryAfter (.ofSeconds 5)))
      (.both (.both .nothing (.request .steady)) (.request (.retryAfter (.ofSeconds 1))))).merged =
      merged mildRequests ∧
    fatalRequests.Perm fatalRequests.reverse ∧ ∃ text text', merged fatalRequests = .fatal text ∧
      merged fatalRequests.reverse = .fatal text' ∧ text ≠ text' := by
  have mild : ∀ text, .fatal text ∉ mildRequests := by simp [mildRequests]
  have reversed : fatalRequests.Perm fatalRequests.reverse := (List.reverse_perm _).symm
  obtain ⟨-, -, -, grouped, -, -, -, acts⟩ := requests_add_up mildRequests (.ofSeconds 20)
  obtain ⟨-, -, -, -, -, ordered, -, -⟩ := requests_add_up fatalRequests (.ofSeconds 20)
  obtain ⟨d, action, shortest, -⟩ := acts mild
  refine ⟨mild, ⟨d, action, ?_⟩, grouped _ rfl, reversed, ?_⟩
  · exact shortest.unique ⟨by decide, by decide⟩
  · rcases ordered _ reversed with same | ⟨text, text', first, last, -⟩
    · exact absurd same (by decide)
    · refine ⟨text, text', first, last, fun same => ?_⟩
      rw [same, ← last] at first
      exact absurd first (by decide)

end Requeue

end BrokerFleet
