import Mathlib.Data.List.Pairwise
import BrokerFleet.Pass.Steps

/-!
How generations come by their names. A name is made from a salted hash, and a generation is found again by the hash
without a salt, so that no two names and no two hashes are the same are two invariants. Both are kept whichever
templates are resolved one after the other and wherever the generations that are created come to stand.
-/

namespace BrokerFleet.Generation

variable {τ : Type} {hashOf : Option UInt32 → String} {base name hash : String} {r : Resolved}
  {existing before after : List Existing}

/-- No two generations have one name, and no two carry one hash. -/
structure Distinct (existing : List Existing) : Prop where
  names : (existing.map (·.name)).Nodup
  hashes : (existing.filterMap (·.hash)).Nodup

def IsKnown (hashOf : Option UInt32 → String) (existing : List Existing) : Prop :=
  ∃ e ∈ existing, e.hash = some (hashOf none)

def IsTaken (hashOf : Option UInt32 → String) (base : String) (existing : List Existing) (attempt : Nat) : Prop :=
  ∃ e ∈ existing, e.name = base ++ "-" ++ hashOf (saltOf attempt)

/-- The first of the attempts whose name is free. -/
structure IsFirstFree (hashOf : Option UInt32 → String) (base : String) (existing : List Existing)
    (attempt : Nat) : Prop where
  allowed : attempt < nameAttempts
  free : ¬ IsTaken hashOf base existing attempt
  taken : ∀ earlier < attempt, IsTaken hashOf base existing earlier

/-- Templates are resolved one after the other, each with the generations that are there by then; one that is created
comes to stand anywhere among them. The list has each template with what it was resolved to. -/
inductive Course (hashes : τ → Option UInt32 → String) (base : String) (initial : List Existing) :
    List (τ × Option Resolved) → List Existing → Prop where
  | start : Course hashes base initial [] initial
  | created {past : List (τ × Option Resolved)} {before after : List Existing} {t : τ} {name hash : String}
      (course : Course hashes base initial past (before ++ after))
      (resolved : resolve? (hashes t) base (before ++ after) = some (.create name hash)) :
      Course hashes base initial (past ++ [(t, some (.create name hash))]) (before ++ ⟨name, some hash⟩ :: after)
  | kept {past : List (τ × Option Resolved)} {existing : List Existing} {t : τ} {r : Option Resolved}
      (course : Course hashes base initial past existing) (resolved : resolve? (hashes t) base existing = r)
      (old : ∀ name hash, r ≠ some (.create name hash)) : Course hashes base initial (past ++ [(t, r)]) existing

/-! ### What a template is resolved to -/

theorem isTaken_iff {attempt : Nat} :
    existing.any (·.name == candidate hashOf base attempt) = true ↔ IsTaken hashOf base existing attempt := by
  simp [IsTaken, candidate]

theorem find?_of_unknown (unknown : ¬ IsKnown hashOf existing) :
    existing.find? (·.hash == some (hashOf none)) = none := by
  refine List.find?_eq_none.mpr fun e member same => unknown ⟨e, member, ?_⟩
  simpa using same

theorem resolve?_of_unknown (unknown : ¬ IsKnown hashOf existing) : resolve? hashOf base existing =
    ((List.range nameAttempts).find? fun attempt => !existing.any (·.name == candidate hashOf base attempt)).map
      fun attempt => .create (candidate hashOf base attempt) (hashOf none) := by
  unfold resolve?
  dsimp only
  rw [find?_of_unknown unknown]
  dsimp only
  rw [List.find?_map, Option.map_map]
  rfl

theorem resolve?_eq_some_of_unknown (unknown : ¬ IsKnown hashOf existing) :
    resolve? hashOf base existing = some r ↔ ∃ attempt, IsFirstFree hashOf base existing attempt ∧
      r = .create (base ++ "-" ++ hashOf (saltOf attempt)) (hashOf none) := by
  rw [resolve?_of_unknown unknown, Option.map_eq_some_iff]
  constructor
  · rintro ⟨attempt, found, rfl⟩
    obtain ⟨free, allowed, earlier⟩ := List.find?_range_eq_some.mp found
    refine ⟨attempt, ⟨List.mem_range.mp allowed, ?_, ?_⟩, rfl⟩
    · rw [← isTaken_iff]
      simpa using free
    · intro i less
      rw [← isTaken_iff]
      simpa using earlier i less
  · rintro ⟨attempt, first, rfl⟩
    refine ⟨attempt, List.find?_range_eq_some.mpr ⟨?_, List.mem_range.mpr first.allowed, ?_⟩, rfl⟩
    · have free := first.free
      rw [← isTaken_iff] at free
      simpa using free
    · intro i less
      have taken := isTaken_iff.mpr (first.taken i less)
      simpa using taken

theorem resolve?_of_find? {e : Existing} (found : existing.find? (·.hash == some (hashOf none)) = some e) :
    resolve? hashOf base existing = some (.adopt e.name (hashOf none)) := by
  unfold resolve?
  dsimp only
  rw [found]

theorem resolve?_of_known (base : String) (known : IsKnown hashOf existing) :
    ∃ found ∈ existing, found.hash = some (hashOf none) ∧
      resolve? hashOf base existing = some (.adopt found.name (hashOf none)) := by
  obtain ⟨e, member, carries⟩ := known
  cases found : existing.find? (·.hash == some (hashOf none)) with
  | none =>
      have missing := List.find?_eq_none.mp found e member
      exact absurd (by simpa using carries) missing
  | some first =>
      have same := List.find?_some found
      exact ⟨first, List.mem_of_find?_eq_some found, by simpa using same, resolve?_of_find? found⟩

theorem resolve?_eq_none_iff : resolve? hashOf base existing = none ↔
    ¬ IsKnown hashOf existing ∧ ∀ attempt < nameAttempts, IsTaken hashOf base existing attempt := by
  by_cases known : IsKnown hashOf existing
  · obtain ⟨found, -, -, adopts⟩ := resolve?_of_known base known
    simp [adopts, known]
  · rw [resolve?_of_unknown known, Option.map_eq_none_iff, List.find?_range_eq_none]
    simp only [Bool.not_not, isTaken_iff]
    exact ⟨fun taken => ⟨known, taken⟩, fun taken => taken.2⟩

theorem fresh_of_create (creates : resolve? hashOf base existing = some (.create name hash)) :
    hash = hashOf none ∧ ¬ IsKnown hashOf existing ∧ ∀ e ∈ existing, e.name ≠ name := by
  have unknown : ¬ IsKnown hashOf existing := by
    intro known
    obtain ⟨found, -, -, adopts⟩ := resolve?_of_known base known
    cases adopts.symm.trans creates
  obtain ⟨attempt, first, same⟩ := (resolve?_eq_some_of_unknown unknown).mp creates
  cases same
  exact ⟨rfl, unknown, fun e member taken => first.free ⟨e, member, taken⟩⟩

theorem hash_of_resolve? (resolves : resolve? hashOf base existing = some r) : r.hash = hashOf none := by
  by_cases known : IsKnown hashOf existing
  · obtain ⟨found, -, -, adopts⟩ := resolve?_of_known base known
    cases adopts.symm.trans resolves
    rfl
  · obtain ⟨attempt, -, rfl⟩ := (resolve?_eq_some_of_unknown known).mp resolves
    rfl

theorem find?_of_adopt (adopts : resolve? hashOf base existing = some (.adopt name hash)) :
    hash = hashOf none ∧ existing.find? (·.hash == some hash) = some ⟨name, some hash⟩ := by
  unfold resolve? at adopts
  dsimp only at adopts
  split at adopts
  · next first found =>
    cases adopts
    have carries : first.hash = some (hashOf none) := by simpa using List.find?_some found
    exact ⟨rfl, by rw [found, ← carries]⟩
  · obtain ⟨attempt, -, same⟩ := Option.map_eq_some_iff.mp adopts
    cases same

theorem mem_of_adopt (adopts : resolve? hashOf base existing = some (.adopt name hash)) :
    hash = hashOf none ∧ ⟨name, some hash⟩ ∈ existing :=
  ⟨(find?_of_adopt adopts).1, List.mem_of_find?_eq_some (find?_of_adopt adopts).2⟩

theorem Distinct.resolve?_of_mem (distinct : Distinct existing) {e : Existing} (member : e ∈ existing)
    (carries : e.hash = some (hashOf none)) :
    resolve? hashOf base existing = some (.adopt e.name (hashOf none)) := by
  obtain ⟨found, there, same, adopts⟩ := resolve?_of_known base ⟨e, member, carries⟩
  have symmetric : Std.Symm fun a b : Existing => ∀ h, a.hash = some h → ∀ h', b.hash = some h' → h ≠ h' :=
    ⟨fun a b apart h hb h' ha => (apart h' ha h hb).symm⟩
  have apart := List.pairwise_filterMap.mp distinct.hashes
  have only : found = e := by
    by_contra differ
    exact apart.forall there member differ _ same _ carries rfl
  rw [adopts, only]

/-! ### What a history of templates leaves -/

theorem Distinct.perm (distinct : Distinct before) (perm : before.Perm after) : Distinct after where
  names := (perm.map _).nodup_iff.mp distinct.names
  hashes := (perm.filterMap _).nodup_iff.mp distinct.hashes

theorem Distinct.created (distinct : Distinct (before ++ after))
    (creates : resolve? hashOf base (before ++ after) = some (.create name hash)) :
    Distinct (before ++ ⟨name, some hash⟩ :: after) := by
  obtain ⟨rfl, unknown, free⟩ := fresh_of_create creates
  have first : Distinct (⟨name, some (hashOf none)⟩ :: (before ++ after)) := by
    constructor
    · rw [List.map_cons, List.nodup_cons]
      refine ⟨fun member => ?_, distinct.names⟩
      obtain ⟨e, there, same⟩ := List.mem_map.mp member
      exact free e there same
    · rw [List.filterMap_cons, List.nodup_cons]
      refine ⟨fun member => ?_, distinct.hashes⟩
      obtain ⟨e, there, same⟩ := List.mem_filterMap.mp member
      exact unknown ⟨e, there, same⟩
  exact first.perm List.perm_middle.symm

variable {hashes : τ → Option UInt32 → String} {initial : List Existing} {past : List (τ × Option Resolved)}

theorem Course.distinct (course : Course hashes base initial past existing) (distinct : Distinct initial) :
    Distinct existing := by
  induction course with
  | start => exact distinct
  | created _ resolved ih => exact ih.created resolved
  | kept _ _ _ ih => exact ih

theorem Course.keeps (course : Course hashes base initial past existing) {t : τ}
    (resolved : (t, some r) ∈ past) : ∃ e ∈ existing, e.name = r.name ∧ e.hash = some (hashes t none) := by
  induction course with
  | start => cases resolved
  | @created past before after t' name hash _ creates ih =>
      rcases List.mem_append.mp resolved with earlier | last
      · obtain ⟨e, member, found⟩ := ih earlier
        refine ⟨e, ?_, found⟩
        rcases List.mem_append.mp member with front | back
        · exact List.mem_append_left _ front
        · exact List.mem_append_right _ (List.mem_cons_of_mem _ back)
      · cases List.mem_singleton.mp last
        refine ⟨⟨name, some hash⟩, List.mem_append_right _ List.mem_cons_self, rfl, ?_⟩
        exact congrArg some (hash_of_resolve? creates)
  | @kept past existing t' r' _ came old ih =>
      rcases List.mem_append.mp resolved with earlier | last
      · exact ih earlier
      · cases List.mem_singleton.mp last
        by_cases known : IsKnown (hashes t) existing
        · obtain ⟨found, member, carries, adopts⟩ := resolve?_of_known base known
          cases adopts.symm.trans came
          exact ⟨found, member, rfl, carries⟩
        · obtain ⟨attempt, -, rfl⟩ := (resolve?_eq_some_of_unknown known).mp came
          exact absurd rfl (old _ _)

/-- Generations are never named or hashed alike, whatever the hashes of templates are and whichever templates are
resolved one after the other. A template that is there, as any is that was resolved before, is adopted under the name
that carries its hash. Any other one gets the first free name of those that are tried, and only if none is free there
is no generation for it. -/
theorem resolution_never_duplicates (distinct : Distinct initial)
    (course : Course hashes base initial past existing) :
    Distinct existing ∧
    (∀ t, ∀ e ∈ existing, e.hash = some (hashes t none) →
      resolve? (hashes t) base existing = some (.adopt e.name (hashes t none))) ∧
    (∀ t r, (t, some r) ∈ past → resolve? (hashes t) base existing = some (.adopt r.name (hashes t none))) ∧
    (∀ t, ¬ IsKnown (hashes t) existing → ∀ r, resolve? (hashes t) base existing = some r ↔
      ∃ attempt, IsFirstFree (hashes t) base existing attempt ∧
        r = .create (base ++ "-" ++ hashes t (saltOf attempt)) (hashes t none)) ∧
    (∀ t, resolve? (hashes t) base existing = none ↔
      ¬ IsKnown (hashes t) existing ∧ ∀ attempt < nameAttempts, IsTaken (hashes t) base existing attempt) ∧
    (∀ (c : Cluster) (template : PodTemplate) (e : ObjectFailure), c.resolveGeneration template existing = .error e ↔
      e = .namesExhausted c.name nameAttempts ∧
        resolve? (saltedHash (hashedText template.spec)) c.name existing = none) := by
  have apart := course.distinct distinct
  refine ⟨apart, fun t e member carries => apart.resolve?_of_mem member carries, fun t r resolved => ?_,
    fun t unknown r => resolve?_eq_some_of_unknown unknown, fun t => resolve?_eq_none_iff, fun c template e => ?_⟩
  · obtain ⟨e, member, named, carries⟩ := course.keeps resolved
    rw [← named]
    exact apart.resolve?_of_mem member carries
  · unfold Cluster.resolveGeneration
    dsimp only
    cases resolve? (saltedHash (hashedText template.spec)) c.name existing with
    | none => simp [eq_comm]
    | some r => simp

def sampleHashes : Bool → Option UInt32 → String
  | true, none => "b"
  | false, none => "c"
  | _, some _ => "d"

/-- A name that another generation has is salted away, and found again after the next template. -/
theorem salted_name_adopted_again : ∃ past existing,
    Distinct [⟨"broker-b", some "x"⟩, ⟨"broker-x", none⟩] ∧
    Course sampleHashes "broker" [⟨"broker-b", some "x"⟩, ⟨"broker-x", none⟩] past existing ∧
    (true, some (.create "broker-d" "b")) ∈ past ∧ (false, some (.create "broker-c" "c")) ∈ past ∧
    resolve? (sampleHashes true) "broker" existing = some (.adopt "broker-d" "b") := by
  have distinct : Distinct [⟨"broker-b", some "x"⟩, ⟨"broker-x", none⟩] := ⟨by decide, by decide⟩
  have first : Course sampleHashes "broker" [⟨"broker-b", some "x"⟩, ⟨"broker-x", none⟩]
      ([] ++ [(true, some (.create "broker-d" "b"))])
      ([] ++ ⟨"broker-d", some "b"⟩ :: [⟨"broker-b", some "x"⟩, ⟨"broker-x", none⟩]) := .created .start (by decide)
  have course : Course sampleHashes "broker" [⟨"broker-b", some "x"⟩, ⟨"broker-x", none⟩]
      ([(true, some (.create "broker-d" "b"))] ++ [(false, some (.create "broker-c" "c"))])
      ([⟨"broker-d", some "b"⟩, ⟨"broker-b", some "x"⟩] ++ ⟨"broker-c", some "c"⟩ :: [⟨"broker-x", none⟩]) :=
    .created first (by decide)
  exact ⟨_, _, distinct, course, by decide, by decide,
    (resolution_never_duplicates distinct course).2.2.1 true _ List.mem_cons_self⟩

end BrokerFleet.Generation
