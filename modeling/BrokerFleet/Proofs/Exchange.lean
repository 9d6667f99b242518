import BrokerFleet.Dialogue

/-!
What passes between a dialogue and the world. An exchange is a call with its reply, and `Yields` says by
which exchanges a dialogue comes to which result, whatever the world replies. `Ends` is the same for an
attempt, taken apart along `bind` by the lemmas of this module. `Asks` bounds the calls of a dialogue and `Gives` the
results of an attempt.
-/

namespace BrokerFleet

open Kubernetes

/-- A call and what the world replied. -/
structure Exchange where
  call : Call
  reply : call.Reply

namespace Dialogue

variable {α β : Type}

/-- The dialogue comes to a result by these exchanges. -/
inductive Yields : Dialogue α → List Exchange → α → Prop where
  | done (a : α) : Yields (.done a) [] a
  | ask {c : Call} {next : c.Reply → Dialogue α} {log : List Exchange} {a : α} (reply : c.Reply)
      (rest : Yields (next reply) log a) : Yields (.ask c next) (⟨c, reply⟩ :: log) a

theorem yields_done {a b : α} {log : List Exchange} :
    (Dialogue.done a).Yields log b ↔ log = [] ∧ b = a := by
  constructor
  · intro h
    cases h
    exact ⟨rfl, rfl⟩
  · intro h
    rcases h with ⟨rfl, rfl⟩
    exact .done b

theorem yields_ask {c : Call} {next : c.Reply → Dialogue α} {log : List Exchange} {a : α} :
    (Dialogue.ask c next).Yields log a ↔
      ∃ reply rest, log = ⟨c, reply⟩ :: rest ∧ (next reply).Yields rest a := by
  constructor
  · intro h
    cases h with
    | ask reply rest => exact ⟨reply, _, rfl, rest⟩
  · intro h
    rcases h with ⟨reply, rest, rfl, h⟩
    exact .ask reply h

theorem Yields.agree {d : Dialogue α} {log log' whole : List Exchange} {a b : α} (first : d.Yields log a)
    (second : d.Yields log' b) (front : log <+: whole) (front' : log' <+: whole) : log = log' ∧ a = b := by
  induction first generalizing log' whole with
  | done a =>
      obtain ⟨rfl, rfl⟩ := yields_done.mp second
      exact ⟨rfl, rfl⟩
  | ask reply rest ih =>
      obtain ⟨reply', log', rfl, follows⟩ := yields_ask.mp second
      obtain ⟨others, rfl⟩ := front
      rw [List.cons_append] at front'
      obtain ⟨same, behind⟩ := List.cons_prefix_cons.mp front'
      cases same
      obtain ⟨rfl, rfl⟩ := ih follows (List.prefix_append ..) behind
      exact ⟨rfl, rfl⟩

theorem Yields.unique {d : Dialogue α} {log : List Exchange} {a b : α} (first : d.Yields log a)
    (second : d.Yields log b) : a = b :=
  (first.agree second (List.prefix_refl log) (List.prefix_refl log)).2

theorem yields_some (d : Dialogue α) (answer : List Exchange → (c : Call) → c.Reply) :
    ∃ log a, d.Yields log a ∧ ∀ before x after, log = before ++ x :: after → x.reply = answer before x.call := by
  induction d generalizing answer with
  | done a =>
      refine ⟨[], a, .done a, fun before x after none => ?_⟩
      cases before <;> cases none
  | ask c next ih =>
      -- What goes on is answered by one who has heard the first call already.
      obtain ⟨log, a, yields, answered⟩ := ih (answer [] c) fun before => answer (⟨c, answer [] c⟩ :: before)
      refine ⟨⟨c, answer [] c⟩ :: log, a, .ask _ yields, fun before x after split => ?_⟩
      cases before with
      | nil =>
          cases (List.cons.inj split).1
          rfl
      | cons first before =>
          obtain ⟨rfl, rest⟩ := List.cons.inj split
          exact answered before x after rest

/-- The exchanges of two dialogues that follow each other are those of the first and then those of the
second. -/
theorem yields_bind {d : Dialogue α} {f : α → Dialogue β} {log : List Exchange} {b : β} :
    (d.bind f).Yields log b ↔
      ∃ a first rest, log = first ++ rest ∧ d.Yields first a ∧ (f a).Yields rest b := by
  induction d generalizing log with
  | done a =>
      constructor
      · intro h
        exact ⟨a, [], log, rfl, .done a, h⟩
      · intro h
        rcases h with ⟨a', first, rest, rfl, hfirst, hrest⟩
        obtain ⟨rfl, rfl⟩ := yields_done.mp hfirst
        exact hrest
  | ask c next ih =>
      constructor
      · intro h
        obtain ⟨reply, tail, rfl, htail⟩ := yields_ask.mp h
        obtain ⟨a, first, rest, rfl, hfirst, hrest⟩ := (ih reply).mp htail
        exact ⟨a, ⟨c, reply⟩ :: first, rest, rfl, .ask reply hfirst, hrest⟩
      · intro h
        rcases h with ⟨a, first, rest, rfl, hfirst, hrest⟩
        obtain ⟨reply, tail, rfl, htail⟩ := yields_ask.mp hfirst
        exact yields_ask.mpr
          ⟨reply, tail ++ rest, rfl, (ih reply).mpr ⟨a, tail, rest, rfl, htail, hrest⟩⟩

def Asks (P : Call → Prop) : Dialogue α → Prop
  | .done _ => True
  | .ask c next => P c ∧ ∀ reply, (next reply).Asks P

theorem asks_bind {P : Call → Prop} {d : Dialogue α} {f : α → Dialogue β}
    (first : d.Asks P) (rest : ∀ a, (f a).Asks P) : (d.bind f).Asks P := by
  induction d with
  | done a => exact rest a
  | ask c next ih => exact ⟨first.1, fun reply => ih reply (first.2 reply)⟩

theorem Asks.imp {P Q : Call → Prop} {d : Dialogue α} (weaker : ∀ c, P c → Q c)
    (asks : d.Asks P) : d.Asks Q := by
  induction d with
  | done a => trivial
  | ask c next ih => exact ⟨weaker c asks.1, fun reply => ih reply (asks.2 reply)⟩

theorem Asks.call_of_mem {P : Call → Prop} {d : Dialogue α} (asks : d.Asks P) {log : List Exchange}
    {a : α} (yields : d.Yields log a) : ∀ x ∈ log, P x.call := by
  induction yields with
  | done a =>
      intro x member
      cases member
  | ask reply rest ih =>
      intro x member
      rcases List.mem_cons.mp member with rfl | later
      · exact asks.1
      · exact ih (asks.2 reply) x later

end Dialogue

namespace Attempt

variable {ε ε' α β : Type} {log : List Exchange}

theorem mapError_eq_ok {g : ε → ε'} {result : Except ε α} {a : α} :
    result.mapError g = .ok a ↔ result = .ok a := by
  cases result with
  | error e => exact ⟨fun h => (nomatch h), fun h => (nomatch h)⟩
  | ok b =>
      constructor
      · intro h
        exact congrArg Except.ok (Except.ok.inj h)
      · intro h
        exact congrArg Except.ok (Except.ok.inj h)

/-- The attempt ends with a result or a failure by these exchanges. -/
def Ends (a : Attempt ε α) (log : List Exchange) (result : Except ε α) : Prop :=
  a.run.Yields log result

def Asks (P : Call → Prop) (a : Attempt ε α) : Prop :=
  Dialogue.Asks P a.run

theorem ends_some (a : Attempt ε α) : ∃ log r, a.Ends log r := by
  have answers : ∀ c : Call, Nonempty c.Reply := fun c => by cases c <;> exact ⟨default⟩
  obtain ⟨log, r, ends, -⟩ := Dialogue.yields_some a.run fun _ c => Classical.choice (answers c)
  exact ⟨log, r, ends⟩

/-! ### Ends -/

theorem ends_pure {a : α} {r : Except ε α} :
    Ends (pure a : Attempt ε α) log r ↔ log = [] ∧ r = .ok a :=
  Dialogue.yields_done

theorem ends_fail {e : ε} {r : Except ε α} :
    Ends (fail e : Attempt ε α) log r ↔ log = [] ∧ r = .error e :=
  Dialogue.yields_done

theorem ends_ofExcept {g : ε → ε'} {result : Except ε α} {r : Except ε' α} :
    Ends (ofExcept g result) log r ↔ log = [] ∧ r = result.mapError g :=
  Dialogue.yields_done

theorem ends_bind {a : Attempt ε α} {f : α → Attempt ε β} {r : Except ε β} :
    Ends (a >>= f) log r ↔
      (∃ e, a.Ends log (.error e) ∧ r = .error e) ∨
      (∃ x first rest, log = first ++ rest ∧ a.Ends first (.ok x) ∧ (f x).Ends rest r) := by
  constructor
  · intro h
    obtain ⟨result, first, rest, rfl, hfirst, hrest⟩ := Dialogue.yields_bind.mp h
    cases result with
    | error e =>
        obtain ⟨rfl, rfl⟩ := Dialogue.yields_done.mp hrest
        refine .inl ⟨e, ?_, rfl⟩
        rw [List.append_nil]
        exact hfirst
    | ok x => exact .inr ⟨x, first, rest, rfl, hfirst, hrest⟩
  · intro h
    rcases h with ⟨e, he, rfl⟩ | ⟨x, first, rest, rfl, hfirst, hrest⟩
    · exact Dialogue.yields_bind.mpr ⟨.error e, log, [], (List.append_nil log).symm, he, .done _⟩
    · exact Dialogue.yields_bind.mpr ⟨.ok x, first, rest, rfl, hfirst, hrest⟩

theorem ends_pure_bind {a : α} {f : α → Attempt ε β} {r : Except ε β} :
    Ends ((pure a : Attempt ε α) >>= f) log r ↔ (f a).Ends log r :=
  Iff.rfl

theorem ends_fail_bind {e : ε} {f : α → Attempt ε β} {r : Except ε β} :
    Ends ((fail e : Attempt ε α) >>= f) log r ↔ log = [] ∧ r = .error e :=
  Dialogue.yields_done

theorem ends_call_bind {c : Call} {f : c.Reply → Attempt ε β} {r : Except ε β} :
    Ends ((call c : Attempt ε c.Reply) >>= f) log r ↔
      ∃ reply rest, log = ⟨c, reply⟩ :: rest ∧ (f reply).Ends rest r :=
  Dialogue.yields_ask

theorem ends_now_bind {f : Instant → Attempt ε β} {r : Except ε β} :
    Ends ((now : Attempt ε Instant) >>= f) log r ↔
      ∃ t rest, log = ⟨.clock, t⟩ :: rest ∧ (f t).Ends rest r :=
  Dialogue.yields_ask

theorem ends_tell_bind {type : EventType} {reason note : String} {f : Unit → Attempt ε β}
    {r : Except ε β} :
    Ends ((tell type reason note : Attempt ε Unit) >>= f) log r ↔
      ∃ rest, log = ⟨.tell ⟨type, reason, note⟩, ()⟩ :: rest ∧ (f ()).Ends rest r := by
  apply Dialogue.yields_ask.trans
  constructor
  · intro h
    rcases h with ⟨⟨⟩, rest, hlog, hrest⟩
    exact ⟨rest, hlog, hrest⟩
  · intro h
    rcases h with ⟨rest, hlog, hrest⟩
    exact ⟨(), rest, hlog, hrest⟩

theorem ends_ofExcept_bind {g : ε → ε'} {result : Except ε α} {f : α → Attempt ε' β}
    {r : Except ε' β} :
    Ends (ofExcept g result >>= f) log r ↔
      (∃ e, result = .error e ∧ log = [] ∧ r = .error (g e)) ∨
      (∃ x, result = .ok x ∧ (f x).Ends log r) := by
  cases result with
  | error e =>
      constructor
      · intro h
        obtain ⟨rfl, rfl⟩ := Dialogue.yields_done.mp h
        exact .inl ⟨e, rfl, rfl, rfl⟩
      · intro h
        rcases h with ⟨e', he, rfl, rfl⟩ | ⟨x, hx, -⟩
        · cases he
          exact .done _
        · cases hx
  | ok x =>
      constructor
      · intro h
        exact .inr ⟨x, rfl, h⟩
      · intro h
        rcases h with ⟨e', he, -⟩ | ⟨x', hx, h⟩
        · cases he
        · cases hx
          exact h

theorem ends_bind_ok {a : Attempt ε α} {f : α → Attempt ε β} {b : β} (h : Ends (a >>= f) log (.ok b)) :
    ∃ x first rest, log = first ++ rest ∧ a.Ends first (.ok x) ∧ (f x).Ends rest (.ok b) := by
  rcases ends_bind.mp h with ⟨e, -, failed⟩ | succeeds
  · cases failed
  · exact succeeds

theorem ends_ofExcept_bind_ok {g : ε → ε'} {result : Except ε α} {f : α → Attempt ε' β} {b : β}
    (h : Ends (ofExcept g result >>= f) log (.ok b)) : ∃ x, result = .ok x ∧ (f x).Ends log (.ok b) := by
  rcases ends_ofExcept_bind.mp h with ⟨e, -, -, failed⟩ | succeeds
  · cases failed
  · exact succeeds

theorem ends_mapFailure {g : ε → ε'} {a : Attempt ε α} {r : Except ε' α} :
    Ends (a.mapFailure g) log r ↔ ∃ result, a.Ends log result ∧ r = result.mapError g := by
  constructor
  · intro h
    obtain ⟨result, first, rest, rfl, hfirst, hrest⟩ := Dialogue.yields_bind.mp h
    obtain ⟨rfl, rfl⟩ := Dialogue.yields_done.mp hrest
    refine ⟨result, ?_, rfl⟩
    rw [List.append_nil]
    exact hfirst
  · intro h
    rcases h with ⟨result, h, rfl⟩
    exact Dialogue.yields_bind.mpr ⟨result, log, [], (List.append_nil log).symm, h, .done _⟩

theorem ends_lift_bind {d : Dialogue α} {f : α → Attempt ε β} {r : Except ε β} :
    Ends ((ExceptT.lift d : Attempt ε α) >>= f) log r ↔
      ∃ x first rest, log = first ++ rest ∧ d.Yields first x ∧ (f x).Ends rest r := by
  rw [ends_bind]
  constructor
  · intro h
    rcases h with ⟨e, h, -⟩ | ⟨x, first, rest, rfl, hfirst, hrest⟩
    · obtain ⟨_, _, _, -, -, hdone⟩ := Dialogue.yields_bind.mp h
      cases (Dialogue.yields_done.mp hdone).2
    · obtain ⟨x', first', rest', rfl, hfirst', hdone⟩ := Dialogue.yields_bind.mp hfirst
      obtain ⟨rfl, hx⟩ := Dialogue.yields_done.mp hdone
      cases hx
      refine ⟨x, first', rest, ?_, hfirst', hrest⟩
      rw [List.append_nil]
  · intro h
    rcases h with ⟨x, first, rest, rfl, hfirst, hrest⟩
    refine .inr ⟨x, first, rest, rfl, ?_, hrest⟩
    exact Dialogue.yields_bind.mpr ⟨x, first, [], (List.append_nil first).symm, hfirst, .done _⟩

theorem ends_outcome_bind {a : Attempt ε α} {f : Except ε α → Attempt ε' β} {r : Except ε' β} :
    Ends ((a.outcome : Attempt ε' (Except ε α)) >>= f) log r ↔
      ∃ result first rest, log = first ++ rest ∧ a.Ends first result ∧ (f result).Ends rest r :=
  ends_lift_bind

/-! ### Asks -/

variable {P : Call → Prop}

@[simp] theorem asks_pure {a : α} : Asks P (pure a : Attempt ε α) :=
  trivial

@[simp] theorem asks_fail {e : ε} : Asks P (fail e : Attempt ε α) :=
  trivial

@[simp] theorem asks_ofExcept {g : ε → ε'} {result : Except ε α} : Asks P (ofExcept g result) :=
  trivial

@[simp] theorem asks_call {c : Call} : Asks P (call c : Attempt ε c.Reply) ↔ P c := by
  simp [Asks, call, ExceptT.lift, ExceptT.run, ExceptT.mk, Dialogue.Asks, Dialogue.call,
    Functor.map, Dialogue.bind]

@[simp] theorem asks_now : Asks P (now : Attempt ε Instant) ↔ P .clock :=
  asks_call

@[simp] theorem asks_tell {type : EventType} {reason note : String} :
    Asks P (tell type reason note : Attempt ε Unit) ↔ P (.tell ⟨type, reason, note⟩) :=
  asks_call

theorem asks_bind {a : Attempt ε α} {f : α → Attempt ε β} (first : a.Asks P)
    (rest : ∀ x, (f x).Asks P) : Asks P (a >>= f) := by
  refine Dialogue.asks_bind first fun result => ?_
  cases result with
  | error e => trivial
  | ok x => exact rest x

theorem asks_mapFailure {g : ε → ε'} {a : Attempt ε α} (asks : a.Asks P) :
    (a.mapFailure g).Asks P :=
  Dialogue.asks_bind asks fun _ => trivial

theorem asks_lift {d : Dialogue α} (asks : d.Asks P) :
    Asks P (ExceptT.lift d : Attempt ε α) :=
  Dialogue.asks_bind asks fun _ => trivial

theorem asks_outcome {a : Attempt ε α} (asks : a.Asks P) :
    Asks P (a.outcome : Attempt ε' (Except ε α)) :=
  asks_lift asks

theorem Asks.call_of_mem {a : Attempt ε α} (asks : a.Asks P) {r : Except ε α}
    (ends : a.Ends log r) : ∀ x ∈ log, P x.call :=
  Dialogue.Asks.call_of_mem asks ends

/-! ### Gives -/

def Gives (Q : α → Prop) (a : Attempt ε α) : Prop :=
  ∀ log x, a.Ends log (.ok x) → Q x

variable {Q : α → Prop} {R : β → Prop}

theorem gives_pure {a : α} (h : Q a) : Gives Q (pure a : Attempt ε α) := by
  intro log x ends
  cases (ends_pure.mp ends).2
  exact h

theorem gives_fail {e : ε} : Gives Q (fail e : Attempt ε α) := by
  intro log x ends
  cases (ends_fail.mp ends).2

theorem gives_bind {a : Attempt ε α} {f : α → Attempt ε β} (first : a.Gives Q)
    (rest : ∀ x, Q x → (f x).Gives R) : (a >>= f).Gives R := by
  intro log y ends
  rcases ends_bind.mp ends with ⟨e, -, ok⟩ | ⟨x, before, after, rfl, came, follows⟩
  · cases ok
  · exact rest x (first _ _ came) _ _ follows

theorem gives_after {a : Attempt ε α} {f : α → Attempt ε β} (rest : ∀ x, (f x).Gives R) :
    (a >>= f).Gives R :=
  gives_bind (Q := fun _ => True) (fun _ _ _ => trivial) fun x _ => rest x

end Attempt

end BrokerFleet
