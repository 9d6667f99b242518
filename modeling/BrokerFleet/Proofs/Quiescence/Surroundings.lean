import BrokerFleet.Proofs.Fleet.Settling
import Mathlib.Data.Set.Insert
import Mathlib.Logic.Function.Basic

/-!
What passes act in: the objects that the API keeps, and a broker. The API shows objects as they were written, a write
that can be done is done, and nobody else writes; the broker gives the same reply to the same request. What an exchange
does not write stays as it is, and what is there stays there.
-/

namespace BrokerFleet

open Kubernetes Rehearsal

/-- The objects of a cluster's passes, by namespace and name, and what the broker replies. -/
structure Surroundings where
  clusters : String → String → Option Cluster
  secrets : String → String → Option Secret
  configs : Set (String × String)
  services : Set (String × String)
  sets : SetStore
  pods : String → List StoredPod
  broker : Endpoint → Nat → Credentials → ManagementRequest → Except TransportFailure Response

namespace Surroundings

/-- Clusters are stored under their own names, and no two objects of a kind share theirs. -/
structure Sound (w : Surroundings) : Prop where
  placed : ∀ ns name c, w.clusters ns name = some c → c.placed = .ok ns
  named : ∀ ns name c, w.clusters ns name = some c → c.name = name
  keyed : w.sets.Keyed
  pods : ∀ ns, ((w.pods ns).map (·.name)).Nodup

def There (w : Surroundings) : ObjectKind → String → String → Prop
  | .secret, ns, name => (w.secrets ns name).isSome = true
  | .configMap, ns, name => (ns, name) ∈ w.configs
  | .service, ns, name => (ns, name) ∈ w.services
  | _, _, _ => False

def stored {α : Type} (objects : String → String → Option α) (ns name : String) (object : α) :
    String → String → Option α :=
  Function.update objects ns (Function.update (objects ns) name (some object))

def podListing (w : Surroundings) (ns selector : String) : List Pod :=
  ((w.pods ns).filter fun pod => Store.isSelected selector pod.object).map (·.shown)

def SetsGate (w : Surroundings) (ns name : String) (serving : Bool) (since : String) (after : Surroundings) : Prop :=
  ∃ pods, List.Forall₂ (fun old pod => if old.name = name then pod.IsWritten old (.setServingGate name serving since)
    else pod = old) (w.pods ns) pods ∧ after = { w with pods := Function.update w.pods ns pods }

def Wrote (w : Surroundings) (ns : String) : (write : Write) → Except ApiError write.Answer → Surroundings → Prop
  | .createSecret m, reply, after =>
    ((w.secrets ns m.metadata.name).isSome = true ∧ reply = .error .conflict ∧ after = w) ∨
      (w.secrets ns m.metadata.name = none ∧ reply = .ok () ∧
        ∃ secret, ofJson? (Write.createSecret m).body = some secret ∧
          after = { w with secrets := stored w.secrets ns m.metadata.name secret })
  | .applyConfig m, reply, after => reply = .ok () ∧ after = { w with configs := insert (ns, m.metadata.name) w.configs }
  | .applyService m, reply, after =>
    reply = .ok () ∧ after = { w with services := insert (ns, m.metadata.name) w.services }
  | .applyGeneration m, reply, after => ∃ set sets, w.sets.Makes ns (.applyGeneration m) set ∧
    SetStore.Put set w.sets sets ∧ reply = .ok set.shown ∧ after = { w with sets }
  | .scaleGeneration name replicas, reply, after =>
    (∃ set sets, w.sets.Makes ns (.scaleGeneration name replicas) set ∧ SetStore.Put set w.sets sets ∧
      reply = .ok set.shown ∧ after = { w with sets }) ∨
      ((∀ set ∈ w.sets, set.key ≠ (ns, name)) ∧ reply = .error .notFound ∧ after = w)
  | .setServingGate name serving since, reply, after =>
    ((∃ pod ∈ w.pods ns, pod.name = name) → reply = .ok ()) ∧ w.SetsGate ns name serving since after
  | .clusterStatus name status, reply, after =>
    (∃ c known, w.clusters ns name = some c ∧ ofJson? (Write.clusterStatus name status).body = some known ∧
      reply = .ok () ∧ after = { w with clusters := stored w.clusters ns name { c with status := some known } }) ∨
      (w.clusters ns name = none ∧ reply = .error .notFound ∧ after = w)
  | _, _, after => after = w

/-- What becomes of the surroundings in an exchange. The time and random keys are any. -/
def Step (w : Surroundings) : Exchange → Surroundings → Prop
  | ⟨.getCluster ns name, reply⟩, after =>
    after = w ∧ reply = (w.clusters ns name).elim (.error .notFound) .ok
  | ⟨.getSecret ns name, reply⟩, after => after = w ∧ reply = (w.secrets ns name).elim (.error .notFound) .ok
  | ⟨.find kind ns name, reply⟩, after =>
    after = w ∧ ((w.There kind ns name ∧ reply = .ok ()) ∨ (¬ w.There kind ns name ∧ reply = .error .notFound))
  | ⟨.listSets ns selector, reply⟩, after => after = w ∧ reply = .ok (w.sets.listing ns selector)
  | ⟨.listPods ns selector, reply⟩, after => after = w ∧ reply = .ok (w.podListing ns selector)
  | ⟨.send peer port credentials request, reply⟩, after => after = w ∧ reply = w.broker peer port credentials request
  | ⟨.write ns write, reply⟩, after => w.Wrote ns write reply after
  | _, after => after = w

/-- What becomes of the surroundings in exchanges, one after the other. -/
inductive Along : Surroundings → List Exchange → Surroundings → Prop where
  | nil (w : Surroundings) : Along w [] w
  | cons {w between after : Surroundings} {x : Exchange} {log : List Exchange} (first : w.Step x between)
      (rest : Along between log after) : Along w (x :: log) after

def Same (w after : Surroundings) : ObjectKind → Prop
  | .cluster => after.clusters = w.clusters
  | .secret => after.secrets = w.secrets
  | .configMap => after.configs = w.configs
  | .service => after.services = w.services
  | .statefulSet => after.sets = w.sets
  | .pod => after.pods = w.pods
  | .job => True

variable {w between after : Surroundings} {x : Exchange} {log : List Exchange} {kind : ObjectKind} {ns name : String}

theorem podListing_congr (same : after.pods = w.pods) : after.podListing = w.podListing := by
  unfold podListing
  rw [same]

theorem podListing_names {selector : String} (distinct : ((w.pods ns).map (·.name)).Nodup) :
    ((w.podListing ns selector).map (·.name)).Nodup := by
  unfold podListing
  rw [StoredPod.shown_names]
  exact distinct.sublist (List.filter_sublist.map _)

theorem along_nil : w.Along [] after ↔ after = w := by
  constructor
  · intro h
    cases h
    rfl
  · rintro rfl
    exact .nil _

theorem along_cons :
    w.Along (x :: log) after ↔ ∃ between : Surroundings, w.Step x between ∧ between.Along log after := by
  constructor
  · intro h
    cases h with
    | cons first rest => exact ⟨_, first, rest⟩
  · rintro ⟨between, first, rest⟩
    exact .cons first rest

theorem along_append {rest : List Exchange} : w.Along (log ++ rest) after ↔
    ∃ between : Surroundings, w.Along log between ∧ between.Along rest after := by
  induction log generalizing w with
  | nil =>
      constructor
      · intro h
        exact ⟨w, .nil w, h⟩
      · rintro ⟨between, first, h⟩
        cases first
        exact h
  | cons x log ih =>
      constructor
      · intro h
        obtain ⟨next, first, later⟩ := along_cons.mp h
        obtain ⟨between, before, follows⟩ := ih.mp later
        exact ⟨between, .cons first before, follows⟩
      · rintro ⟨between, before, follows⟩
        obtain ⟨next, first, later⟩ := along_cons.mp before
        exact .cons first (ih.mpr ⟨between, later, follows⟩)

theorem stored_self {α : Type} {objects : String → String → Option α} {object : α} :
    stored objects ns name object ns name = some object := by
  rw [stored, Function.update_self, Function.update_self]

theorem eq_of_stored {α : Type} {object other : α} {ns' name' : String}
    (found : stored (fun _ _ => none) ns name object ns' name' = some other) :
    ns' = ns ∧ name' = name ∧ other = object := by
  unfold stored at found
  by_cases placed : ns' = ns
  · subst placed
    rw [Function.update_self] at found
    by_cases named : name' = name
    · subst named
      rw [Function.update_self] at found
      exact ⟨rfl, rfl, (Option.some.inj found).symm⟩
    · rw [Function.update_of_ne named] at found
      cases found
  · rw [Function.update_of_ne placed] at found
    cases found

theorem stored_stored {α : Type} {objects : String → String → Option α} {object other : α} :
    stored (stored objects ns name object) ns name other = stored objects ns name other := by
  unfold stored
  rw [Function.update_self, Function.update_idem, Function.update_idem]

theorem isSome_stored {α : Type} {objects : String → String → Option α} {object : α} {ns' name' : String}
    (there : (objects ns' name').isSome = true) : (stored objects ns name object ns' name').isSome = true := by
  unfold stored
  by_cases same : ns' = ns
  · subst same
    rw [Function.update_self]
    by_cases named : name' = name
    · rw [named, Function.update_self]
      rfl
    · rwa [Function.update_of_ne named]
  · rwa [Function.update_of_ne same]

/-! ### What an exchange leaves as it is -/

theorem Wrote.keeps {write : Write} {reply : Except ApiError write.Answer} (wrote : w.Wrote ns write reply after) :
    after.broker = w.broker ∧ ∀ kind, write.kind ≠ kind → w.Same after kind := by
  have still : after = w → after.broker = w.broker ∧ ∀ kind, write.kind ≠ kind → w.Same after kind := by
    rintro rfl
    exact ⟨rfl, fun kind _ => by cases kind <;> first | rfl | trivial⟩
  cases write with
  | createSecret m =>
      rcases wrote with ⟨-, -, unchanged⟩ | ⟨-, -, secret, -, rfl⟩
      · exact still unchanged
      · exact ⟨rfl, fun kind other => by cases kind <;> first | rfl | trivial⟩
  | applyConfig m =>
      obtain ⟨-, rfl⟩ := wrote
      exact ⟨rfl, fun kind other => by cases kind <;> first | rfl | trivial⟩
  | applyService m =>
      obtain ⟨-, rfl⟩ := wrote
      exact ⟨rfl, fun kind other => by cases kind <;> first | rfl | trivial⟩
  | applyGeneration m =>
      obtain ⟨set, sets, -, -, -, rfl⟩ := wrote
      exact ⟨rfl, fun kind other => by cases kind <;> first | rfl | trivial⟩
  | scaleGeneration name replicas =>
      rcases wrote with ⟨set, sets, -, -, -, rfl⟩ | ⟨-, -, unchanged⟩
      · exact ⟨rfl, fun kind other => by cases kind <;> first | rfl | trivial⟩
      · exact still unchanged
  | setServingGate name serving since =>
      obtain ⟨-, pods, -, rfl⟩ := wrote
      exact ⟨rfl, fun kind other => by cases kind <;> first | rfl | trivial⟩
  | clusterStatus name status =>
      rcases wrote with ⟨c, known, -, -, -, rfl⟩ | ⟨-, -, unchanged⟩
      · exact ⟨rfl, fun kind other => by cases kind <;> first | rfl | trivial⟩
      · exact still unchanged
  | jobStatus job status => exact still wrote
  | deferStop job attempts retryAt => exact still wrote
  | editFinalizers job edits => exact still wrote

theorem Step.cases (step : w.Step x after) :
    after = w ∨ ∃ ns write reply, x = ⟨.write ns write, reply⟩ ∧ w.Wrote ns write reply after := by
  obtain ⟨call, reply⟩ := x
  cases call with
  | write ns write => exact .inr ⟨ns, write, reply, rfl, step⟩
  | clock => exact .inl step
  | freshKey => exact .inl step
  | listJobs ns => exact .inl step
  | tell event => exact .inl step
  | getCluster ns name => exact .inl step.1
  | getSecret ns name => exact .inl step.1
  | find kind ns name => exact .inl step.1
  | listSets ns selector => exact .inl step.1
  | listPods ns selector => exact .inl step.1
  | send peer port credentials request => exact .inl step.1

theorem Step.same (step : w.Step x after) (other : ∀ ns write, x.call = .write ns write → write.kind ≠ kind) :
    w.Same after kind := by
  rcases step.cases with rfl | ⟨ns, write, reply, rfl, wrote⟩
  · cases kind <;> first | rfl | trivial
  · exact wrote.keeps.2 kind (other ns write rfl)

theorem Same.trans (first : w.Same between kind) (later : between.Same after kind) : w.Same after kind := by
  cases kind with
  | job => trivial
  | _ => exact Eq.trans later first

theorem Along.same (along : w.Along log after)
    (other : ∀ x ∈ log, ∀ ns write, x.call = .write ns write → write.kind ≠ kind) : w.Same after kind := by
  induction along with
  | nil w => cases kind <;> first | rfl | trivial
  | cons first rest ih =>
      exact (first.same (other _ List.mem_cons_self)).trans
        (ih fun x member => other x (List.mem_cons_of_mem _ member))

theorem Step.broker (step : w.Step x after) : after.broker = w.broker := by
  rcases step.cases with rfl | ⟨ns, write, reply, rfl, wrote⟩
  · rfl
  · exact wrote.keeps.1

theorem Along.broker (along : w.Along log after) : after.broker = w.broker := by
  induction along with
  | nil w => rfl
  | cons first rest ih => exact ih.trans first.broker

theorem Step.there (step : w.Step x after) (found : w.There kind ns name) : after.There kind ns name := by
  rcases step.cases with rfl | ⟨place, write, reply, rfl, wrote⟩
  · exact found
  by_cases same : write.kind = kind
  · subst same
    cases write with
    | createSecret m =>
        rcases wrote with ⟨-, -, rfl⟩ | ⟨-, -, secret, -, rfl⟩
        · exact found
        · exact isSome_stored found
    | applyConfig m =>
        obtain ⟨-, rfl⟩ := wrote
        exact Set.mem_insert_of_mem _ found
    | applyService m =>
        obtain ⟨-, rfl⟩ := wrote
        exact Set.mem_insert_of_mem _ found
    | _ => exact found.elim
  · have kept := wrote.keeps.2 kind same
    cases kind <;> first | exact found.elim | (unfold There; rw [kept]; exact found)

theorem Along.there (along : w.Along log after) (found : w.There kind ns name) : after.There kind ns name := by
  induction along with
  | nil w => exact found
  | cons first rest ih => exact ih (first.there found)

theorem Along.found (along : w.Along log after) (found : ⟨.find kind ns name, .ok ()⟩ ∈ log) :
    after.There kind ns name := by
  induction along with
  | nil w => cases found
  | cons first rest ih =>
      rcases List.mem_cons.mp found with rfl | later
      · obtain ⟨rfl, ⟨there, -⟩ | ⟨-, same⟩⟩ := first
        · exact rest.there there
        · cases same
      · exact ih later

theorem Step.sets (step : w.Step x after) : w.sets.Step x after.sets := by
  obtain ⟨call, reply⟩ := x
  cases call with
  | listSets ns selector =>
      obtain ⟨rfl, rfl⟩ := step
      exact ⟨rfl, rfl⟩
  | write ns write =>
      cases write with
      | applyGeneration m =>
          obtain ⟨set, sets, sent, put, rfl, rfl⟩ := step
          exact ⟨set, sent, put, rfl⟩
      | scaleGeneration name replicas =>
          rcases step with ⟨set, sets, scaled, put, rfl, rfl⟩ | ⟨-, rfl, rfl⟩
          · exact ⟨set, scaled, put, rfl⟩
          · exact .inl rfl
      | _ =>
          have other : w.Same after .statefulSet := step.same fun _ _ same => by cases same; exact nofun
          exact other
  | _ =>
      have other : w.Same after .statefulSet := step.same fun _ _ same => nomatch same
      exact other

theorem Along.sets (along : w.Along log after) : w.sets.Along log after.sets := by
  induction along with
  | nil w => exact .nil w.sets
  | cons first rest ih => exact .cons first.sets ih

end Surroundings

end BrokerFleet
