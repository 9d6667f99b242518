import BrokerFleet.Json.Reader
import BrokerFleet.Proofs.Json.Numeral

/-!
Compact text is read back. A value without binary fractions, whose whole numbers fit into 64 bits and which is not nested
too deep, comes out of the reader as it was written, with the members of its records in the order of their names.
-/

namespace BrokerFleet.Json

open Reading

variable {c : Char} {rest more : List Char} {fuel depth n : Nat}

/-! ### Quoted texts -/

theorem fourHex?_append {cs : List Char} {unit : Nat} (read : fourHex? cs = some (unit, [])) :
    fourHex? (cs ++ rest) = some (unit, rest) := by
  match cs, read with
  | a :: b :: c :: d :: others, read =>
      simp only [fourHex?, Option.bind_eq_bind, Option.bind_eq_some_iff, Option.some.injEq, Prod.mk.injEq] at read
      obtain ⟨first, readFirst, second, readSecond, third, readThird, fourth, readFourth, same, rfl⟩ := read
      simp only [List.cons_append, List.nil_append, fourHex?, readFirst, readSecond, readThird, readFourth,
        Option.bind_eq_bind, Option.bind_some, same]

theorem fourHex?_hex : ∀ n < 0x20, fourHex? (Text.hex 4 n) = some (n, []) := by decide

theorem unicodeEscape_hex (low : n < 0x20) : unicodeEscape (Text.hex 4 n ++ rest) = .ok (Char.ofNat n, rest) := by
  have read : codeUnit (Text.hex 4 n ++ rest) = .ok (n, rest) := by
    rw [codeUnit, fourHex?_append (fourHex?_hex n low)]
  rw [unicodeEscape, read]
  show (if 0xD800 ≤ n ∧ n < 0xDC00 then _ else if 0xDC00 ≤ n ∧ n < 0xE000 then _ else _) = _
  rw [if_neg (by omega), if_neg (by omega)]

theorem stringBody_escape (read : escape more = .ok (c, rest)) :
    stringBody (fuel + 1) ('\\' :: more) = (stringBody fuel rest).map fun read => (c :: read.1, read.2) := by
  rw [stringBody, if_neg (by decide), if_neg (by decide), if_pos rfl, read]
  show (stringBody fuel rest).bind _ = _
  cases stringBody fuel rest <;> rfl

theorem stringBody_escaped (c : Char) (fuel : Nat) (rest : List Char) :
    stringBody (fuel + 1) (escaped c ++ rest) = (stringBody fuel rest).map fun read => (c :: read.1, read.2) := by
  have known {n : Nat} (is : c.toNat = n) : c = Char.ofNat n := by rw [← is, Char.ofNat_toNat]
  unfold escaped
  simp only
  split
  · next is => rw [known is]; exact stringBody_escape rfl
  split
  · next is => rw [known is]; exact stringBody_escape rfl
  split
  · next is => rw [known is]; exact stringBody_escape rfl
  split
  · next is => rw [known is]; exact stringBody_escape rfl
  split
  · next is => rw [known is]; exact stringBody_escape rfl
  split
  · next is => rw [known is]; exact stringBody_escape rfl
  split
  · next is => rw [known is]; exact stringBody_escape rfl
  split
  · next control => exact stringBody_escape ((unicodeEscape_hex control).trans (by rw [Char.ofNat_toNat]))
  · next noMark noSlash _ _ _ _ _ noControl =>
    have other : c ≠ '\\' := fun same => noSlash (same ▸ rfl)
    rw [List.singleton_append, stringBody, if_neg noMark, if_neg noControl, if_neg other]
    show (stringBody fuel rest).bind _ = _
    cases stringBody fuel rest <;> rfl

theorem stringBody_flatMap {text : List Char} (enough : text.length < fuel) :
    stringBody fuel (text.flatMap escaped ++ quotationMark :: rest) = .ok (text, rest) := by
  induction text generalizing fuel with
  | nil =>
      obtain ⟨fuel, rfl⟩ := Nat.exists_eq_add_of_lt enough
      rfl
  | cons c text ih =>
      obtain _ | fuel := fuel
      · exact absurd enough (Nat.not_lt_zero _)
      rw [List.flatMap_cons, List.append_assoc, stringBody_escaped, ih (Nat.lt_of_succ_lt_succ enough)]
      rfl

theorem escaped_ne_nil (c : Char) : escaped c ≠ [] := by
  unfold escaped
  simp only
  (repeat' split) <;> exact List.cons_ne_nil _ _

theorem length_le_flatMap_escaped (text : List Char) : text.length ≤ (text.flatMap escaped).length := by
  induction text with
  | nil => exact Nat.le_refl _
  | cons c text ih =>
      have some := List.length_pos_iff.mpr (escaped_ne_nil c)
      rw [List.flatMap_cons, List.length_append, List.length_cons]
      omega

/-! ### Whole numbers -/

theorem le_ofDigitChars (ds : List Char) (seen : Nat) : seen ≤ Nat.ofDigitChars 10 ds seen := by
  induction ds generalizing seen with
  | nil => exact Nat.le_refl _
  | cons d ds ih =>
      rw [Nat.ofDigitChars_cons]
      exact Nat.le_trans (by omega) (ih _)

theorem leadingDigits_of_lt {ds : List Char} {seen : Nat} (fits : Nat.ofDigitChars 10 ds seen < UInt64.size) :
    leadingDigits seen ds = (Nat.ofDigitChars 10 ds seen, []) := by
  induction ds generalizing seen with
  | nil => rfl
  | cons d ds ih =>
      rw [Nat.ofDigitChars_cons] at fits ⊢
      have next := Nat.lt_of_le_of_lt (le_ofDigitChars ds _) fits
      rw [leadingDigits]
      exact (if_pos next).trans (ih fits)

def IsExact (n : Int) : Prop :=
  -(UInt64.size / 2 : Nat) ≤ n ∧ n < UInt64.size

theorem numberText_toString (n : Int) (stops : Stops rest) : numberText ((toString n).toList ++ rest) =
    .ok (⟨decide (n < 0), Nat.toDigits 10 n.natAbs, none, none⟩, rest) := by
  rw [← text_toString]
  exact numberText_text (wellFormed_toDigits _ _) stops

theorem value?_toDigits {n : Int} (exact : IsExact n) :
    (⟨decide (n < 0), Nat.toDigits 10 n.natAbs, none, none⟩ : NumberText).value? = some (.int n) := by
  have limit : UInt64.size = 18446744073709551616 := rfl
  obtain ⟨lower, upper⟩ := exact
  have value := Nat.ofDigitChars_toDigits (b := 10) (n := n.natAbs) (by decide) (by decide)
  have leading : leadingDigits 0 (Nat.toDigits 10 n.natAbs) = (n.natAbs, []) := by
    rw [leadingDigits_of_lt (by rw [value]; omega), value]
  simp only [NumberText.value?, leading, List.isEmpty_nil, if_true]
  by_cases negative : n < 0
  · rw [decide_eq_true negative, if_neg (by decide), if_pos (by omega)]
    exact congrArg (some ∘ Json.int) (by omega)
  · rw [decide_eq_false negative, if_pos (by decide)]
    exact congrArg (some ∘ Json.int) (by omega)

theorem number_toString {n : Int} (exact : IsExact n) (stops : Stops rest) :
    number ((toString n).toList ++ rest) = .ok (.int n, rest) := by
  rw [number, numberText_toString n stops]
  simp only [bind, Except.bind, value?_toDigits exact]

/-! ### Values -/

/-- Values whose text is exact: no binary fractions, whole numbers of 64 bits, and no deeper than this. -/
inductive Plain : Nat → Json → Prop where
  | null {depth : Nat} : Plain depth .null
  | bool {depth : Nat} (value : Bool) : Plain depth (.bool value)
  | int {depth : Nat} {n : Int} (exact : IsExact n) : Plain depth (.int n)
  | string {depth : Nat} (s : String) : Plain depth (.string s)
  | array {depth : Nat} {items : List Json} (each : ∀ item ∈ items, Plain depth item) :
      Plain (depth + 1) (.array items)
  | object {depth : Nat} {members : Members} (each : ∀ member ∈ members, Plain depth member.2) :
      Plain (depth + 1) (.object members)

/-- The text of a value is read back, whatever may follow it. -/
structure ReadsBack (depth : Nat) (v : Json) : Prop where
  begins : ∀ rest, ∃ c more, textOnto v rest = c :: more ∧ isSpace c = false ∧ c ≠ ']' ∧ rest.length ≤ more.length
  read : ∀ fuel {rest}, Stops rest → (textOnto v rest).length ≤ fuel + rest.length →
    value fuel depth (textOnto v rest) = .ok (v.sorted, rest)

theorem ReadsBack.length_lt {v : Json} (back : ReadsBack depth v) (rest : List Char) :
    rest.length < (textOnto v rest).length := by
  obtain ⟨c, more, text, -, -, longer⟩ := back.begins rest
  rw [text, List.length_cons]
  omega

theorem length_le_itemsOnto {items : List Json} (each : ∀ item ∈ items, ReadsBack depth item) (first : Bool)
    (rest : List Char) : rest.length ≤ (itemsOnto first items rest).length := by
  induction items generalizing first with
  | nil => exact Nat.le_refl _
  | cons item others ih =>
      obtain ⟨back, each⟩ := List.forall_mem_cons.mp each
      have longer := Nat.lt_of_le_of_lt (ih each false) (back.length_lt _)
      rw [itemsOnto]
      cases first
      · exact Nat.le_succ_of_le (Nat.le_of_lt longer)
      · exact Nat.le_of_lt longer

theorem skipSpaces_cons (solid : isSpace c = false) : skipSpaces (c :: rest) = c :: rest :=
  List.dropWhile_cons_of_neg (by rw [solid]; decide)

theorem items_last {cs : List Char} {item : Json} (read : value fuel depth cs = .ok (item, ']' :: rest)) :
    items (fuel + 1) depth cs = .ok ([item], rest) := by
  rw [items, read]
  rfl

theorem items_more {cs : List Char} {item : Json} (read : value fuel depth cs = .ok (item, ',' :: c :: more))
    (solid : isSpace c = false) (goes : c ≠ ']') :
    items (fuel + 1) depth cs = (items fuel depth (c :: more)).map fun read => (item :: read.1, read.2) := by
  have comma : skipSpaces (',' :: c :: more) = ',' :: c :: more := skipSpaces_cons (by decide)
  rw [items, read]
  simp only [bind, Except.bind, comma, skipSpaces_cons solid]
  split
  · next same => exact absurd (List.cons.inj same).1 goes
  · cases items fuel depth (c :: more) <;> rfl

theorem items_itemsOnto {item : Json} {others : List Json} (each : ∀ i ∈ item :: others, ReadsBack depth i)
    (enough : (itemsOnto true (item :: others) (']' :: rest)).length ≤ fuel + rest.length) :
    items fuel depth (itemsOnto true (item :: others) (']' :: rest)) =
      .ok (sortedItems (item :: others), rest) := by
  induction others generalizing fuel item with
  | nil =>
      obtain ⟨back, -⟩ := List.forall_mem_cons.mp each
      have longer := back.length_lt (']' :: rest)
      change (textOnto item (']' :: rest)).length ≤ _ at enough
      rw [List.length_cons] at longer
      obtain _ | fuel := fuel
      · omega
      have only := back.read fuel (stops_bracket rest) (by rw [List.length_cons]; omega)
      exact items_last only
  | cons next others ih =>
      obtain ⟨back, each⟩ := List.forall_mem_cons.mp each
      obtain ⟨c, more, text, solid, goes, onwards⟩ :=
        (each next List.mem_cons_self).begins (itemsOnto false others (']' :: rest))
      change itemsOnto true (next :: others) (']' :: rest) = c :: more at text
      have after := length_le_itemsOnto each true (']' :: rest)
      have longer := back.length_lt (',' :: c :: more)
      change (textOnto item (',' :: itemsOnto true (next :: others) (']' :: rest))).length ≤ _ at enough
      rw [text] at enough after
      rw [List.length_cons] at longer after
      obtain _ | fuel := fuel
      · omega
      have first := back.read fuel (stops_comma (c :: more)) (by rw [List.length_cons]; omega)
      have following := ih each (by rw [text]; omega : _ ≤ fuel + rest.length)
      change items (fuel + 1) depth (textOnto item (',' :: itemsOnto true (next :: others) (']' :: rest))) = _
      rw [text] at following ⊢
      rw [items_more first solid goes, following]
      rfl

theorem length_le_membersOnto {list : Members} (each : ∀ member ∈ list, ReadsBack depth member.2) (first : Bool)
    (rest : List Char) : rest.length ≤ (membersOnto first list rest).length := by
  induction list generalizing first with
  | nil => exact Nat.le_refl _
  | cons member others ih =>
      obtain ⟨name, v⟩ := member
      obtain ⟨back, each⟩ := List.forall_mem_cons.mp each
      have longer : rest.length < (textOnto v (membersOnto false others rest)).length :=
        Nat.lt_of_le_of_lt (ih each false) (back.length_lt _)
      have named : rest.length ≤ (quoted name ++ ':' :: textOnto v (membersOnto false others rest)).length := by
        rw [List.length_append, List.length_cons]
        omega
      rw [membersOnto]
      cases first
      · exact Nat.le_succ_of_le named
      · exact named

def namedOnto (name : String) (v : Json) (rest : List Char) : List Char :=
  name.toList.flatMap escaped ++ quotationMark :: ':' :: textOnto v rest

theorem membersOnto_cons {name : String} {v : Json} {others : Members} :
    membersOnto true ((name, v) :: others) rest = quotationMark :: namedOnto name v (membersOnto false others rest) := by
  simp only [membersOnto, quoted, namedOnto, if_true, List.cons_append, List.append_assoc, List.nil_append]

theorem membersOnto_next {name : String} {v : Json} {others : Members} :
    membersOnto false ((name, v) :: others) rest =
      ',' :: quotationMark :: namedOnto name v (membersOnto false others rest) := by
  rw [← membersOnto_cons]
  rfl

section

variable {name : String} {v : Json} {known : Members} (short : name.toList.length < fuel)
include short

theorem members_last (read : value fuel depth (textOnto v (Char.ofNat 0x7D :: rest)) =
      .ok (v.sorted, Char.ofNat 0x7D :: rest)) :
    members (fuel + 1) depth (namedOnto name v (Char.ofNat 0x7D :: rest)) known =
      .ok (insert name v.sorted known, rest) := by
  rw [members, namedOnto, stringBody_flatMap short]
  show ((value fuel depth (textOnto v (Char.ofNat 0x7D :: rest))).bind _) = _
  rw [read, String.ofList_toList]
  rfl

theorem members_more (read : value fuel depth (textOnto v (',' :: quotationMark :: more)) =
      .ok (v.sorted, ',' :: quotationMark :: more)) :
    members (fuel + 1) depth (namedOnto name v (',' :: quotationMark :: more)) known =
      members fuel depth more (insert name v.sorted known) := by
  rw [members, namedOnto, stringBody_flatMap short]
  show ((value fuel depth (textOnto v (',' :: quotationMark :: more))).bind _) = _
  rw [read, String.ofList_toList]
  rfl

end

theorem length_namedOnto (name : String) (v : Json) (rest : List Char) :
    name.toList.length + 2 + (textOnto v rest).length ≤ (namedOnto name v rest).length := by
  have marks := length_le_flatMap_escaped name.toList
  rw [namedOnto, List.length_append, List.length_cons, List.length_cons]
  omega

theorem members_namedOnto {name : String} {v : Json} {others : Members} (known : Members)
    (each : ∀ member ∈ (name, v) :: others, ReadsBack depth member.2)
    (enough : (namedOnto name v (membersOnto false others (Char.ofNat 0x7D :: rest))).length ≤ fuel + rest.length) :
    members fuel depth (namedOnto name v (membersOnto false others (Char.ofNat 0x7D :: rest))) known =
      .ok (sortedMembers ((name, v) :: others) known, rest) := by
  induction others generalizing fuel name v known with
  | nil =>
      have back : ReadsBack depth v := (List.forall_mem_cons.mp each).1
      change (namedOnto name v (Char.ofNat 0x7D :: rest)).length ≤ _ at enough
      have named := length_namedOnto name v (Char.ofNat 0x7D :: rest)
      have longer := back.length_lt (Char.ofNat 0x7D :: rest)
      rw [List.length_cons] at longer
      obtain _ | fuel := fuel
      · omega
      have only := back.read fuel (stops_brace rest) (by rw [List.length_cons]; omega)
      exact members_last (by omega) only
  | cons next others ih =>
      obtain ⟨other, w⟩ := next
      have back : ReadsBack depth v := (List.forall_mem_cons.mp each).1
      have each := (List.forall_mem_cons.mp each).2
      have after := length_le_membersOnto each false (Char.ofNat 0x7D :: rest)
      rw [membersOnto_next] at enough after ⊢
      generalize following : namedOnto other w (membersOnto false others (Char.ofNat 0x7D :: rest)) = more at *
      have named := length_namedOnto name v (',' :: quotationMark :: more)
      have longer := back.length_lt (',' :: quotationMark :: more)
      simp only [List.length_cons] at longer after
      obtain _ | fuel := fuel
      · omega
      have first := back.read fuel (stops_comma (quotationMark :: more))
        (by simp only [List.length_cons]; omega)
      rw [members_more (by omega) first, ← following, ih _ each (by rw [following]; omega)]
      rfl

theorem ne_of_numeric {d : Char} (numeric : c = '-' ∨ Text.isDigit c = true)
    (apart : ¬(d = '-' ∨ Text.isDigit d = true)) : c.toNat ≠ d.toNat :=
  fun same => apart (Char.toNat_inj.mp same ▸ numeric)

theorem isSpace_numeric (numeric : c = '-' ∨ Text.isDigit c = true) : isSpace c = false := by
  simp only [isSpace, Bool.or_eq_false_iff, decide_eq_false_iff_not]
  exact ⟨⟨⟨ne_of_numeric (d := ' ') numeric (by decide), ne_of_numeric (d := '\n') numeric (by decide)⟩,
    ne_of_numeric (d := '\r') numeric (by decide)⟩, ne_of_numeric (d := '\t') numeric (by decide)⟩

theorem value_number (numeric : c = '-' ∨ Text.isDigit c = true) :
    value (fuel + 1) depth (c :: rest) = number (c :: rest) := by
  have other {d : Char} (apart : ¬(d = '-' ∨ Text.isDigit d = true)) : c ≠ d := fun same =>
    ne_of_numeric numeric apart (congrArg Char.toNat same)
  have noMark : c.toNat ≠ 0x22 := ne_of_numeric (d := quotationMark) numeric (by decide)
  have noBrace : c.toNat ≠ 0x7B := ne_of_numeric (d := Char.ofNat 0x7B) numeric (by decide)
  rw [value, skipSpaces_cons (isSpace_numeric numeric)]
  show (if c = 'n' then _ else if c = 't' then _ else if c = 'f' then _ else if c.toNat = 0x22 then _ else
    if c = '[' then _ else if c.toNat = 0x7B then _ else if c = '-' ∨ Text.isDigit c = true then _ else _) = _
  rw [if_neg (other (by decide)), if_neg (other (by decide)), if_neg (other (by decide)),
    if_neg noMark, if_neg (other (by decide)), if_neg noBrace, if_pos numeric]

theorem ReadsBack.of_cons {v : Json} (c : Char) (onto : List Char → List Char)
    (text : ∀ rest, textOnto v rest = c :: onto rest) (solid : isSpace c = false) (goes : c ≠ ']')
    (grows : ∀ rest, rest.length ≤ (onto rest).length)
    (read : ∀ {fuel rest}, Stops rest → (onto rest).length ≤ fuel + rest.length →
      value (fuel + 1) depth (c :: onto rest) = .ok (v.sorted, rest)) : ReadsBack depth v where
  begins rest := ⟨c, onto rest, text rest, solid, goes, grows rest⟩
  read {fuel rest} stops enough := by
    have grows := grows rest
    rw [text, List.length_cons] at enough
    obtain _ | fuel := fuel
    · omega
    rw [text]
    exact read stops (by omega)

theorem readsBack_int {n : Int} (exact : IsExact n) : ReadsBack depth (.int n) := by
  obtain ⟨c, more, text, numeric⟩ := (isNumeral_toString n).begins
  refine .of_cons c (more ++ ·) (fun rest => by rw [textOnto, text]; rfl) (isSpace_numeric numeric) ?_
    (fun _ => by rw [List.length_append]; omega) fun {fuel rest} stops _ => ?_
  · rintro rfl
    revert numeric
    decide
  · rw [value_number numeric, ← List.cons_append, ← text, number_toString exact stops]
    simp only [sorted]

theorem readsBack_string (s : String) : ReadsBack depth (.string s) := by
  refine .of_cons quotationMark (fun rest => s.toList.flatMap escaped ++ quotationMark :: rest)
    (fun _ => by simp only [textOnto, quoted, List.cons_append, List.append_assoc, List.nil_append]) (by decide)
    (by decide) (fun _ => by rw [List.length_append, List.length_cons]; omega) fun {fuel rest} _ enough => ?_
  have marks := length_le_flatMap_escaped s.toList
  rw [List.length_append, List.length_cons] at enough
  show (stringBody fuel (s.toList.flatMap escaped ++ quotationMark :: rest)).map _ = _
  rw [stringBody_flatMap (by omega)]
  simp only [sorted, Except.map, String.ofList_toList]

theorem value_array {l : List Json} (read : items fuel depth (c :: more) = .ok (l, rest)) (solid : isSpace c = false)
    (goes : c ≠ ']') : value (fuel + 1) (depth + 1) ('[' :: c :: more) = .ok (.array l, rest) := by
  have bracket : skipSpaces ('[' :: c :: more) = '[' :: c :: more := skipSpaces_cons (by decide)
  rw [value, bracket]
  simp only [Char.reduceEq, Char.reduceToNat, Nat.reduceEqDiff, if_false, if_true, skipSpaces_cons solid]
  split
  · next none => exact absurd none (List.cons_ne_nil _ _)
  · next same => exact absurd (List.cons.inj same).1 goes
  · rw [read]
    rfl

theorem readsBack_array {items : List Json} (each : ∀ item ∈ items, ReadsBack depth item) :
    ReadsBack (depth + 1) (.array items) := by
  refine .of_cons '[' (fun rest => itemsOnto true items (']' :: rest)) (fun _ => by rw [textOnto]) (by decide)
    (by decide) (fun rest => ?_) fun {fuel rest} _ enough => ?_
  · have longer := length_le_itemsOnto each true (']' :: rest)
    rw [List.length_cons] at longer
    omega
  · cases items with
    | nil => rfl
    | cons item others =>
        have read := items_itemsOnto each enough
        obtain ⟨c, more, text, solid, goes, -⟩ :=
          (each item List.mem_cons_self).begins (itemsOnto false others (']' :: rest))
        change itemsOnto true (item :: others) (']' :: rest) = c :: more at text
        rw [text] at read ⊢
        rw [value_array read solid goes, sorted]

theorem readsBack_object {list : Members} (each : ∀ member ∈ list, ReadsBack depth member.2) :
    ReadsBack (depth + 1) (.object list) := by
  refine .of_cons (Char.ofNat 0x7B) (fun rest => membersOnto true list (Char.ofNat 0x7D :: rest))
    (fun _ => by rw [textOnto]) (by decide) (by decide) (fun rest => ?_) fun {fuel rest} _ enough => ?_
  · have longer := length_le_membersOnto each true (Char.ofNat 0x7D :: rest)
    rw [List.length_cons] at longer
    omega
  · cases list with
    | nil => rfl
    | cons member others =>
        obtain ⟨name, v⟩ := member
        rw [membersOnto_cons] at enough ⊢
        rw [List.length_cons] at enough
        have read := members_namedOnto [] each (by omega : _ ≤ fuel + rest.length)
        show (Reading.members fuel depth (namedOnto name v (membersOnto false others (Char.ofNat 0x7D :: rest))) []).map _ =
          _
        rw [read, sorted]
        rfl

theorem readsBack_word {v : Json} {c : Char} (others : List Char)
    (text : ∀ rest, textOnto v rest = c :: (others ++ rest)) (solid : isSpace c = false) (goes : c ≠ ']')
    (read : ∀ {fuel rest}, value (fuel + 1) depth (c :: (others ++ rest)) = .ok (v, rest)) (leaf : v.sorted = v) :
    ReadsBack depth v :=
  .of_cons c (others ++ ·) text solid goes (fun _ => by rw [List.length_append]; omega) fun _ _ => by
    rw [leaf, read]

theorem Plain.readsBack {v : Json} (plain : Plain depth v) : ReadsBack depth v := by
  induction plain with
  | null =>
      exact readsBack_word ['u', 'l', 'l'] (fun _ => by rw [textOnto]; rfl) (by decide) (by decide) rfl
        (by simp only [sorted])
  | bool value =>
      cases value
      · exact readsBack_word ['a', 'l', 's', 'e'] (fun _ => by rw [textOnto]; rfl) (by decide) (by decide)
          rfl (by simp only [sorted])
      · exact readsBack_word ['r', 'u', 'e'] (fun _ => by rw [textOnto]; rfl) (by decide) (by decide) rfl
          (by simp only [sorted])
  | int exact => exact readsBack_int exact
  | string s => exact readsBack_string s
  | array _ ih => exact readsBack_array ih
  | object _ ih => exact readsBack_object ih

theorem parse_compact {v : Json} (plain : Plain depthLimit v) : parse v.compact = .ok v.sorted := by
  have text : v.compact.toList = textOnto v [] := String.toList_ofList
  have read := plain.readsBack.read (2 * (textOnto v []).length + 2) stops_nil (by rw [List.length_nil]; omega)
  rw [parse, text]
  simp only [read, bind, Except.bind]
  rfl

/-! ### Values within values -/

mutual

theorem textOnto_append (value : Json) (rest : List Char) : textOnto value rest = textOnto value [] ++ rest := by
  match value with
  | .null => simp [textOnto]
  | .bool true => simp [textOnto]
  | .bool false => simp [textOnto]
  | .int n => simp [textOnto]
  | .real x => simp [textOnto]
  | .string s => simp [textOnto]
  | .array items =>
      simp only [textOnto]
      rw [itemsOnto_append true items (']' :: rest), itemsOnto_append true items [']']]
      simp
  | .object members =>
      simp only [textOnto]
      rw [membersOnto_append true members (Char.ofNat 0x7D :: rest),
        membersOnto_append true members [Char.ofNat 0x7D]]
      simp

theorem itemsOnto_append (first : Bool) (items : List Json) (rest : List Char) :
    itemsOnto first items rest = itemsOnto first items [] ++ rest := by
  match items with
  | [] => rfl
  | item :: items =>
      have text : textOnto item (itemsOnto false items rest) = textOnto item (itemsOnto false items []) ++ rest := by
        rw [textOnto_append item (itemsOnto false items rest), textOnto_append item (itemsOnto false items []),
          itemsOnto_append false items rest, List.append_assoc]
      cases first <;> simp [itemsOnto, text]

theorem membersOnto_append (first : Bool) (members : List (String × Json)) (rest : List Char) :
    membersOnto first members rest = membersOnto first members [] ++ rest := by
  match members with
  | [] => rfl
  | (name, value) :: members =>
      have text : textOnto value (membersOnto false members rest) =
          textOnto value (membersOnto false members []) ++ rest := by
        rw [textOnto_append value (membersOnto false members rest),
          textOnto_append value (membersOnto false members []), membersOnto_append false members rest,
          List.append_assoc]
      cases first <;> simp [membersOnto, text]

end

def memberTexts (members : Members) : List (String × List Char) :=
  members.map fun (name, value) => (name, value.compact.toList)

def memberText (member : String × List Char) : List Char :=
  quoted member.1 ++ ':' :: member.2

def objectText (members : List (String × List Char)) : List Char :=
  Char.ofNat 0x7B :: ([','].intercalate (members.map memberText) ++ [Char.ofNat 0x7D])

theorem membersOnto_false (members : Members) :
    membersOnto false members [] = ((memberTexts members).map memberText).flatMap (',' :: ·) := by
  induction members with
  | nil => rfl
  | cons member others ih =>
      obtain ⟨name, value⟩ := member
      rw [membersOnto, textOnto_append, ih]
      simp [memberTexts, memberText, compact]

theorem intercalate_comma (text : List Char) (texts : List (List Char)) :
    [','].intercalate (text :: texts) = text ++ texts.flatMap (',' :: ·) := by
  induction texts generalizing text with
  | nil => simp
  | cons next texts ih =>
      rw [List.intercalate_cons_cons, ih]
      simp

theorem compact_object (members : Members) : (Json.object members).compact.toList = objectText (memberTexts members) := by
  rw [compact, String.toList_ofList, textOnto, membersOnto_append, objectText]
  cases members with
  | nil => rfl
  | cons member others =>
      obtain ⟨name, value⟩ := member
      rw [membersOnto, textOnto_append, membersOnto_false]
      simp [memberTexts, memberText, compact, intercalate_comma]

/-! ### Plain forms -/

theorem Plain.record {l : List (String × Option Json)}
    (each : l.Forall fun member => ∀ v ∈ member.2, Plain depth v) : Plain (depth + 1) (record l) := by
  refine .object fun member shown => ?_
  obtain ⟨⟨name, value⟩, listed, there⟩ := List.mem_filterMap.mp shown
  obtain ⟨value, rfl, rfl⟩ := Option.map_eq_some_iff.mp there
  exact List.forall_iff_forall_mem.mp each _ listed value rfl

/-- Types whose values are written as plain values of at most this depth. -/
class PlainForm (depth : Nat) (α : Type) [ToJson α] : Prop where
  plain : ∀ a : α, Plain depth (toJson a)

instance : PlainForm depth String := ⟨.string⟩

instance : PlainForm depth Int32 where
  plain n := by
    have lower := Int32.le_toInt n
    have upper := Int32.toInt_lt n
    refine .int ⟨?_, ?_⟩
    · show -(9223372036854775808 : Int) ≤ n.toInt
      omega
    · show n.toInt < (18446744073709551616 : Int)
      omega

instance : PlainForm depth Int64 where
  plain n := by
    have lower := Int64.le_toInt n
    have upper := Int64.toInt_lt n
    refine .int ⟨?_, ?_⟩
    · show -(9223372036854775808 : Int) ≤ n.toInt
      omega
    · show n.toInt < (18446744073709551616 : Int)
      omega

section

variable {α : Type} [ToJson α] [PlainForm depth α]

instance : PlainForm (depth + 1) (List α) where
  plain items := by
    refine .array fun item listed => ?_
    obtain ⟨a, -, rfl⟩ := List.mem_map.mp listed
    exact PlainForm.plain a

theorem plain_there (a : α) : ∀ v ∈ some (toJson a), Plain depth v := by
  rintro v ⟨⟩
  exact PlainForm.plain a

theorem plain_optional (a : Option α) : ∀ v ∈ a.map toJson, Plain depth v := by
  rintro v shown
  obtain ⟨a, rfl, rfl⟩ := Option.map_eq_some_iff.mp shown
  exact PlainForm.plain a

theorem plain_unlessEmpty (items : List α) : ∀ v ∈ unlessEmpty (items.map toJson), Plain (depth + 1) v := by
  intro v shown
  unfold unlessEmpty at shown
  split at shown
  · cases shown
  · cases shown
    exact PlainForm.plain items

end

theorem plain_unlessBlank (text : String) : ∀ v ∈ unlessBlank text, Plain depth v := by
  intro v shown
  unfold unlessBlank at shown
  split at shown
  · cases shown
  · cases shown
    exact .string text

end BrokerFleet.Json
