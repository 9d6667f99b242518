import BrokerFleet.Proofs.Pass.Evacuation

/-!
The StatefulSets that passes act on. A fleet says how many replicas each of them asks for. Only the calls of
the operator change it, a call that fails may have changed it or not, and a listing shows it as it is.
-/

namespace BrokerFleet

open Kubernetes

abbrev Fleet := String → String → Option Int32

namespace Fleet

def put (f : Fleet) (ns name : String) (replicas : Int32) : Fleet :=
  fun otherNs other => if otherNs = ns ∧ other = name then some replicas else f otherNs other

/-- A listing of a namespace shows what is there; a set that does not say asks for one replica. -/
def Shows (f : Fleet) (ns : String) (sets : List StatefulSet) : Prop :=
  ∀ set ∈ sets, ∀ name, set.name = some name → f ns name = some (set.replicas.getD 1)

def Sized (f : Fleet) (ns name : String) (replicas : Int32) (reply : Except ApiError StatefulSet)
    (after : Fleet) : Prop :=
  match reply with
  | .ok set => set.name = some name ∧ set.replicas = some replicas ∧ after = f.put ns name replicas
  | .error _ => after = f ∨ after = f.put ns name replicas

/-- What becomes of a fleet in an exchange. -/
def Step (f : Fleet) : Exchange → Fleet → Prop
  | ⟨.listSets ns _, .ok sets⟩, after => after = f ∧ f.Shows ns sets
  | ⟨.write ns (.scaleGeneration name replicas), reply⟩, after => f.Sized ns name replicas reply after
  | ⟨.write ns (.applyGeneration m), reply⟩, after =>
    f.Sized ns m.metadata.name m.replicas reply after
  | _, after => after = f

/-- What becomes of a fleet in exchanges, one after the other. -/
inductive Along : Fleet → List Exchange → Fleet → Prop where
  | nil (f : Fleet) : Along f [] f
  | cons {f between after : Fleet} {x : Exchange} {log : List Exchange} (first : f.Step x between)
      (rest : Along between log after) : Along f (x :: log) after

variable {f after : Fleet} {log : List Exchange}

theorem put_same {ns name : String} {replicas : Int32} : f.put ns name replicas ns name = some replicas :=
  if_pos ⟨rfl, rfl⟩

theorem put_other {ns name otherNs other : String} {replicas : Int32}
    (differs : ¬ (otherNs = ns ∧ other = name)) : f.put ns name replicas otherNs other = f otherNs other :=
  if_neg differs

theorem Sized.other {ns name otherNs other : String} {replicas : Int32}
    {reply : Except ApiError StatefulSet} (sized : f.Sized ns name replicas reply after)
    (differs : ¬ (otherNs = ns ∧ other = name)) : after otherNs other = f otherNs other := by
  cases reply with
  | ok set =>
      obtain ⟨-, -, rfl⟩ := sized
      exact put_other differs
  | error e =>
      rcases sized with rfl | rfl
      · rfl
      · exact put_other differs

theorem Sized.same {ns name : String} {replicas : Int32} {reply : Except ApiError StatefulSet}
    (sized : f.Sized ns name replicas reply after) :
    after ns name = f ns name ∨ after ns name = some replicas := by
  cases reply with
  | ok set =>
      obtain ⟨-, -, rfl⟩ := sized
      exact .inr put_same
  | error e =>
      rcases sized with rfl | rfl
      · exact .inl rfl
      · exact .inr put_same

theorem along_nil : f.Along [] after ↔ after = f := by
  constructor
  · intro h
    cases h
    rfl
  · intro same
    subst same
    exact .nil _

theorem along_cons {x : Exchange} :
    f.Along (x :: log) after ↔ ∃ between : Fleet, f.Step x between ∧ between.Along log after := by
  constructor
  · intro h
    cases h with
    | cons first rest => exact ⟨_, first, rest⟩
  · intro h
    rcases h with ⟨between, first, rest⟩
    exact .cons first rest

theorem along_append {rest : List Exchange} :
    f.Along (log ++ rest) after ↔ ∃ between : Fleet, f.Along log between ∧ between.Along rest after := by
  induction log generalizing f with
  | nil =>
      constructor
      · intro h
        exact ⟨f, .nil f, h⟩
      · intro h
        rcases h with ⟨between, first, h⟩
        rwa [along_nil.mp first] at h
  | cons x log ih =>
      constructor
      · intro h
        obtain ⟨next, first, later⟩ := along_cons.mp h
        obtain ⟨between, before, follows⟩ := ih.mp later
        exact ⟨between, .cons first before, follows⟩
      · intro h
        rcases h with ⟨between, before, follows⟩
        obtain ⟨next, first, later⟩ := along_cons.mp before
        exact .cons first (ih.mpr ⟨between, later, follows⟩)

theorem Step.of_quiet {x : Exchange} (step : f.Step x after) (quiet : ¬ x.call.IsMove) : after = f := by
  unfold Step at step
  split at step
  · exact step.1
  · exact absurd trivial quiet
  · exact absurd trivial quiet
  · exact step

theorem Along.of_quiet (along : f.Along log after) (quiet : Quiet log) : after = f := by
  induction along with
  | nil f => rfl
  | cons first rest ih =>
      have still := first.of_quiet (quiet _ List.mem_cons_self)
      rw [ih fun x member => quiet x (List.mem_cons_of_mem _ member), still]

theorem along_of_quiet (quiet : Quiet log)
    (shown : ∀ ns selector sets, ⟨.listSets ns selector, .ok sets⟩ ∈ log → f.Shows ns sets) : f.Along log f := by
  induction log with
  | nil => exact .nil f
  | cons x log ih =>
      have later := ih (fun y member => quiet y (List.mem_cons_of_mem _ member))
        fun ns selector sets member => shown ns selector sets (List.mem_cons_of_mem _ member)
      refine .cons ?_ later
      have still := quiet x List.mem_cons_self
      unfold Step
      split
      · exact ⟨rfl, shown _ _ _ List.mem_cons_self⟩
      · exact absurd trivial still
      · exact absurd trivial still
      · rfl

end Fleet

end BrokerFleet
