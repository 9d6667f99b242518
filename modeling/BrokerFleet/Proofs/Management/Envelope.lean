import BrokerFleet.Failure
import BrokerFleet.Management.Envelope

/-!
What an answer of the management API says. Its body counts as a refusal exactly if it is an object whose code stands for
no success, and then the HTTP status does not matter; an answer that refuses nothing is told by its status.
-/

namespace BrokerFleet

/-! ### Texts -/

theorem Text.occurs_iff {α : Type} [BEq α] [LawfulBEq α] {part text : List α} :
    occurs part text = true ↔ part <:+: text := by
  induction text with
  | nil => simp [occurs]
  | cons x xs ih => simp [occurs, ih, List.infix_cons_iff]

theorem Text.Utf8.decode?_ascii {bytes : List UInt8} (ascii : ∀ b ∈ bytes, b.toNat < 0x80) :
    decode? bytes = some (String.ofList (bytes.map fun b => Char.ofNat b.toNat)) := by
  have read : (segments bytes).mapM id = some (bytes.map fun b => Char.ofNat b.toNat) := by
    unfold segments
    induction bytes with
    | nil => rfl
    | cons byte rest ih =>
        obtain ⟨small, others⟩ := List.forall_mem_cons.mp ascii
        rw [segmentsFrom, if_pos small, List.mapM_cons, ih others]
        rfl
  rw [decode?, read]
  rfl

theorem Json.Reading.value_blank {fuel depth : Nat} {cs : List Char}
    (blank : ∀ c ∈ cs, isSpace c = true ∨ c = Char.ofNat 0x0C) : ∃ fault, value fuel depth cs = .error fault := by
  cases fuel with
  | zero => exact ⟨_, rfl⟩
  | succ fuel =>
      unfold value
      split
      · exact ⟨_, rfl⟩
      · next c rest found =>
        have member : c ∈ cs := (List.dropWhile_sublist _).subset (found ▸ List.mem_cons_self)
        have stays : isSpace c = false := by
          have head := List.head?_dropWhile_not isSpace cs
          rw [show cs.dropWhile isSpace = c :: rest from found] at head
          simpa using head
        have feed : c = Char.ofNat 0x0C := by
          apply (blank c member).resolve_left
          rw [stays]
          decide
        subst feed
        exact ⟨_, rfl⟩

namespace Response

variable {r : Response} {members : Members} {code : Json} {path : String}

theorem isBlankByte_cases {b : UInt8} (blank : isBlankByte b = true) : b.toNat < 0x80 ∧
    (Json.Reading.isSpace (Char.ofNat b.toNat) = true ∨ Char.ofNat b.toNat = Char.ofNat 0x0C) := by
  simp only [isBlankByte, Bool.or_eq_true, beq_iff_eq] at blank
  rcases blank with (((rfl | rfl) | rfl) | rfl) | rfl <;> decide

theorem document?_eq (r : Response) : r.document? = Json.parseBytes? r.body := by
  unfold document?
  split
  · next blank =>
    rw [List.all_eq_true] at blank
    have decoded := Text.Utf8.decode?_ascii fun b member => (isBlankByte_cases (blank b member)).1
    have spaces : ∀ c ∈ r.body.map fun b => Char.ofNat b.toNat,
        Json.Reading.isSpace c = true ∨ c = Char.ofNat 0x0C := by
      intro c member
      obtain ⟨b, among, rfl⟩ := List.mem_map.mp member
      exact (isBlankByte_cases (blank b among)).2
    have refuted : Json.parse? (String.ofList (r.body.map fun b => Char.ofNat b.toNat)) = none := by
      unfold Json.parse? Json.parse
      rw [String.toList_ofList]
      dsimp only
      obtain ⟨fault, failed⟩ := Json.Reading.value_blank spaces
      rw [failed]
      rfl
    rw [Json.parseBytes?, decoded, Option.bind_some, refuted]
  · rfl

/-! ### Refusals -/

/-- The codes that stand for success. -/
inductive Succeeds : Json → Prop where
  | null : Succeeds .null
  | zero : Succeeds (.int 0)
  | empty : Succeeds (.string "")
  | digit : Succeeds (.string "0")
  | word {s : String} (said : s.toList.map Char.toLower = "success".toList) : Succeeds (.string s)

theorem isSuccessCode_iff : isSuccessCode code = true ↔ Succeeds code := by
  constructor
  · intro success
    unfold isSuccessCode at success
    split at success
    · exact .null
    · next n =>
      rw [beq_iff_eq] at success
      subst success
      exact .zero
    · next s =>
      simp only [Bool.or_eq_true, String.isEmpty_iff, beq_iff_eq] at success
      rcases success with (rfl | rfl) | said
      · exact .empty
      · exact .digit
      · exact .word (beq_iff_eq.mp said)
    · cases success
  · intro success
    cases success with
    | null => rfl
    | zero => rfl
    | empty => rfl
    | digit => rfl
    | word said => simp [isSuccessCode, Text.eqIgnoringCase, said]

theorem real_ne_zero {x : Option Decimal.Binary64} : x.map Json.real ≠ some (.int 0) := by
  cases x <;> simp

theorem endless_ne_zero {P : Prop} [Decidable P] {x : Decimal.Binary64} :
    (if P then none else some (Json.real x)) ≠ some (.int 0) := by
  split <;> simp

theorem plain_of_zero {t : Json.Reading.NumberText} (zero : t.value? = some (.int 0)) :
    t.negative = false ∧ t.fraction = none ∧ t.exponent = none := by
  obtain ⟨negative, whole, fraction, exponent⟩ := t
  unfold Json.Reading.NumberText.value? at zero
  dsimp only at zero
  split at zero
  · refine ⟨?_, rfl, rfl⟩
    cases negative with
    | false => rfl
    | true =>
        split at zero
        · split at zero
          · next plain => cases plain
          · split at zero
            · next positive _ =>
              have same := Json.int.inj (Option.some.inj zero)
              omega
            · exact absurd zero real_ne_zero
        · exact absurd zero real_ne_zero
  · split at zero
    · exact absurd zero real_ne_zero
    · split at zero
      · exact absurd zero endless_ne_zero
      · exact absurd zero real_ne_zero

/-- The body is an object with a code that stands for no success. -/
structure Refuses (r : Response) (members : Members) (code : Json) : Prop where
  reads : Json.parseBytes? r.body = some (.object members)
  coded : Json.lookup "code" members = some code
  fails : ¬ Succeeds code

def textOf (members : Members) : String :=
  ((Json.lookup "message" members).map rendered).getD ""

/-- The code or the text says that the load is even already. -/
def SaysEven (members : Members) (code : Json) : Prop :=
  (rendered code).toList.map Char.toLower = "nothing_to_balance".toList ∨
    "nothing_to_balance".toList <:+: (textOf members).toList.map Char.toLower

theorem Refuses.payload (refuses : r.Refuses members code) :
    r.payload path = .error (.refused path (rendered code) (textOf members)) := by
  have fails : isSuccessCode code = false := by
    rw [← Bool.not_eq_true, isSuccessCode_iff]
    exact refuses.fails
  have refused : r.document?.bind refusal? = some (rendered code, textOf members) := by
    rw [document?_eq, refuses.reads, Option.bind_some, refusal?, Json.field?, refuses.coded]
    simp [fails, textOf]
    rfl
  rw [Response.payload, refused]

theorem refusal?_eq_none (accepted : ¬ ∃ members code, r.Refuses members code) : r.document?.bind refusal? = none := by
  rw [document?_eq]
  cases reads : Json.parseBytes? r.body with
  | none => rfl
  | some value =>
      rw [Option.bind_some, refusal?]
      cases value with
      | object members =>
          cases coded : Json.lookup "code" members with
          | none => simp [Json.field?, coded]
          | some code =>
              have success : Succeeds code := by
                apply Classical.byContradiction
                intro fails
                exact accepted ⟨members, code, reads, coded, fails⟩
              simp [Json.field?, coded, isSuccessCode_iff.mpr success]
      | null => rfl
      | bool _ => rfl
      | int _ => rfl
      | real _ => rfl
      | string _ => rfl
      | array _ => rfl

theorem payload_of_accepted (accepted : ¬ ∃ members code, r.Refuses members code) :
    r.payload path = if 200 ≤ r.status ∧ r.status < 300 then .ok r.document?
      else .error (.httpStatus path r.status (Text.Utf8.decodeLossy r.body)) := by
  rw [payload, refusal?_eq_none accepted]
  simp [isSuccess]

end Response

namespace ManagementFailure

variable {path : String} {members : Members} {code : Json}

theorem isNothingToBalance_refused :
    isNothingToBalance (.refused path (Response.rendered code) (Response.textOf members)) = true ↔
      Response.SaysEven members code := by
  have lowered : evenLoad.toList.map Char.toLower = "nothing_to_balance".toList := by decide
  unfold isNothingToBalance Text.eqIgnoringCase
  rw [Bool.or_eq_true, beq_iff_eq, Text.occurs_iff, lowered]
  exact Iff.rfl

theorem classify_refused : (ManagementFailure.refused path (Response.rendered code) (Response.textOf members)).classify =
    if isNothingToBalance (.refused path (Response.rendered code) (Response.textOf members)) then .precondition
    else .controlPlane :=
  rfl

theorem precondition_iff : (refused path (Response.rendered code) (Response.textOf members)).classify = .precondition ↔
    Response.SaysEven members code := by
  rw [classify_refused, ← isNothingToBalance_refused]
  split
  · next even => exact iff_of_true rfl even
  · next uneven => exact iff_of_false nofun uneven

theorem controlPlane_of_uneven (uneven : ¬ Response.SaysEven members code) :
    (refused path (Response.rendered code) (Response.textOf members)).classify = .controlPlane := by
  rw [classify_refused, if_neg fun even => uneven (isNothingToBalance_refused.mp even)]

end ManagementFailure

end BrokerFleet
