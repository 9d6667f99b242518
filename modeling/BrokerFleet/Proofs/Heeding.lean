import BrokerFleet.Proofs.Exchange

/-!
What a dialogue calls in view of what it has heard. A condition on calls may speak of the exchanges that came
before; it is shown part by part, and then holds of every call in a whole course of exchanges and in one that has
only come part of the way.
-/

namespace BrokerFleet

namespace Dialogue

variable {α β : Type} {P : List Exchange → Call → Prop} {log : List Exchange}

def Heeds (P : List Exchange → Call → Prop) : Dialogue α → List Exchange → Prop
  | .done _, _ => True
  | .ask c next, log => P log c ∧ ∀ reply, (next reply).Heeds P (log ++ [⟨c, reply⟩])

/-- The dialogue has come to another one by these exchanges. -/
inductive Comes : Dialogue α → List Exchange → Dialogue α → Prop where
  | here (d : Dialogue α) : Comes d [] d
  | ask {c : Call} {next : c.Reply → Dialogue α} {log : List Exchange} {d : Dialogue α} (reply : c.Reply)
      (rest : Comes (next reply) log d) : Comes (.ask c next) (⟨c, reply⟩ :: log) d

theorem Comes.snoc {d : Dialogue α} {c : Call} {next : c.Reply → Dialogue α} (comes : d.Comes log (.ask c next))
    (reply : c.Reply) : d.Comes (log ++ [⟨c, reply⟩]) (next reply) := by
  generalize ended : Dialogue.ask c next = e at comes
  induction comes with
  | here d =>
      subst ended
      exact .ask reply (.here _)
  | ask first rest ih => exact .ask first (ih ended)

theorem Yields.comes {d : Dialogue α} {a : α} (yields : d.Yields log a) : d.Comes log (.done a) := by
  induction yields with
  | done a => exact .here _
  | ask reply _ ih => exact .ask reply ih

theorem yields_append {d : Dialogue α} {before after : List Exchange} {a : α} (yields : d.Yields (before ++ after) a) :
    ∃ e, d.Comes before e ∧ e.Yields after a := by
  induction before generalizing d with
  | nil => exact ⟨d, .here d, yields⟩
  | cons x before ih =>
      cases yields with
      | ask reply rest =>
          obtain ⟨e, comes, follows⟩ := ih rest
          exact ⟨e, .ask reply comes, follows⟩

theorem heeds_bind {d : Dialogue α} {f : α → Dialogue β} (first : d.Heeds P log)
    (rest : ∀ later a, d.Yields later a → (f a).Heeds P (log ++ later)) : (d.bind f).Heeds P log := by
  induction d generalizing log with
  | done a =>
      have follows := rest [] a (.done a)
      rwa [List.append_nil] at follows
  | ask c next ih =>
      refine ⟨first.1, fun reply => ih reply (first.2 reply) fun later a yields => ?_⟩
      rw [List.append_assoc]
      exact rest _ a (.ask reply yields)

theorem heeds_of_asks {d : Dialogue α} (mono : ∀ log later c, P log c → P (log ++ later) c)
    (asks : d.Asks (P log)) : d.Heeds P log := by
  have later : ∀ more, d.Heeds P (log ++ more) := by
    induction d with
    | done a => exact fun _ => trivial
    | ask c next ih =>
        refine fun more => ⟨mono _ _ _ asks.1, fun reply => ?_⟩
        rw [List.append_assoc]
        exact ih reply (asks.2 reply) _
  have here := later []
  rwa [List.append_nil] at here

theorem Heeds.of_comes {d : Dialogue α} {before : List Exchange} {c : Call} {next : c.Reply → Dialogue α}
    (heeds : d.Heeds P log) (comes : d.Comes before (.ask c next)) : P (log ++ before) c := by
  generalize ended : Dialogue.ask c next = e at comes
  induction comes generalizing log with
  | here d =>
      subst ended
      rw [List.append_nil]
      exact heeds.1
  | ask reply rest ih =>
      have later := ih (heeds.2 reply) ended
      rwa [List.append_assoc] at later

theorem comes_append {d e : Dialogue α} {before after : List Exchange} (comes : d.Comes (before ++ after) e) :
    ∃ m, d.Comes before m ∧ m.Comes after e := by
  induction before generalizing d with
  | nil => exact ⟨d, .here d, comes⟩
  | cons x before ih =>
      cases comes with
      | ask reply rest =>
          obtain ⟨m, first, later⟩ := ih rest
          exact ⟨m, .ask reply first, later⟩

theorem Heeds.of_split {d e : Dialogue α} {before after : List Exchange} {x : Exchange} (heeds : d.Heeds P log)
    (comes : d.Comes (before ++ x :: after) e) : P (log ++ before) x.call := by
  obtain ⟨m, first, rest⟩ := comes_append comes
  cases rest with
  | ask reply rest => exact heeds.of_comes first

theorem Heeds.of_made {d e : Dialogue α} {made : List Exchange} (heeds : d.Heeds P log) (comes : d.Comes made e)
    {x : Exchange} (member : x ∈ made) : ∃ before after, made = before ++ x :: after ∧ P (log ++ before) x.call := by
  obtain ⟨before, after, rfl⟩ := List.append_of_mem member
  exact ⟨before, after, rfl, heeds.of_split comes⟩

theorem Heeds.imp {Q : List Exchange → Call → Prop} {d : Dialogue α} (weaker : ∀ log c, P log c → Q log c)
    (heeds : d.Heeds P log) : d.Heeds Q log := by
  induction d generalizing log with
  | done a => trivial
  | ask c next ih => exact ⟨weaker _ _ heeds.1, fun reply => ih reply (heeds.2 reply)⟩

theorem heeds_of_any {Q : Call → Prop} {d : Dialogue α} (always : ∀ log c, Q c → P log c) (asks : d.Asks Q) :
    d.Heeds P log := by
  induction d generalizing log with
  | done a => trivial
  | ask c next ih => exact ⟨always _ _ asks.1, fun reply => ih reply (asks.2 reply)⟩

end Dialogue

namespace Attempt

variable {ε ε' α β : Type} {P : List Exchange → Call → Prop} {log : List Exchange}

def Heeds (P : List Exchange → Call → Prop) (a : Attempt ε α) (log : List Exchange) : Prop :=
  Dialogue.Heeds P a.run log

theorem heeds_pure {a : α} : Heeds P (pure a : Attempt ε α) log :=
  trivial

theorem heeds_fail {e : ε} : Heeds P (fail e : Attempt ε α) log :=
  trivial

theorem heeds_ofExcept {g : ε → ε'} {result : Except ε α} : Heeds P (ofExcept g result) log :=
  trivial

theorem heeds_of_asks {a : Attempt ε α} (mono : ∀ log later c, P log c → P (log ++ later) c)
    (asks : a.Asks (P log)) : a.Heeds P log :=
  Dialogue.heeds_of_asks mono asks

theorem heeds_of_any {Q : Call → Prop} {a : Attempt ε α} (always : ∀ log c, Q c → P log c) (asks : a.Asks Q) :
    a.Heeds P log :=
  Dialogue.heeds_of_any always asks

theorem heeds_bind {a : Attempt ε α} {f : α → Attempt ε β} (first : a.Heeds P log)
    (rest : ∀ later x, a.Ends later (.ok x) → (f x).Heeds P (log ++ later)) : Heeds P (a >>= f) log := by
  refine Dialogue.heeds_bind first fun later result yields => ?_
  cases result with
  | error e => trivial
  | ok x => exact rest later x yields

theorem heeds_ofExcept_bind {g : ε → ε'} {result : Except ε α} {f : α → Attempt ε' β}
    (rest : ∀ x, result = .ok x → (f x).Heeds P log) : Heeds P (ofExcept g result >>= f) log := by
  refine heeds_bind heeds_ofExcept fun later x ends => ?_
  obtain ⟨rfl, same⟩ := ends_ofExcept.mp ends
  rw [List.append_nil]
  exact rest x (mapError_eq_ok.mp same.symm)

theorem heeds_call_bind {c : Call} {f : c.Reply → Attempt ε β} (here : P log c)
    (rest : ∀ reply, (f reply).Heeds P (log ++ [⟨c, reply⟩])) :
    Heeds P ((call c : Attempt ε c.Reply) >>= f) log :=
  ⟨here, rest⟩

theorem heeds_mapFailure {g : ε → ε'} {a : Attempt ε α} (heeds : a.Heeds P log) :
    (a.mapFailure g).Heeds P log :=
  Dialogue.heeds_bind heeds fun _ _ _ => trivial

theorem heeds_outcome_bind {a : Attempt ε α} {f : Except ε α → Attempt ε' β} (first : a.Heeds P log)
    (rest : ∀ later result, a.Ends later result → (f result).Heeds P (log ++ later)) :
    Heeds P ((a.outcome : Attempt ε' (Except ε α)) >>= f) log := by
  refine heeds_bind (Dialogue.heeds_bind first fun _ _ _ => trivial) fun later result ends => ?_
  obtain ⟨came, before, after, rfl, yields, done⟩ := Dialogue.yields_bind.mp ends
  obtain ⟨rfl, same⟩ := Dialogue.yields_done.mp done
  cases same
  rw [List.append_nil]
  exact rest before result yields

end Attempt

end BrokerFleet
