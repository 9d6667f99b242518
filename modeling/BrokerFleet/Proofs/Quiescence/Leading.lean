import BrokerFleet.Proofs.Quiescence.Surroundings

/-!
Dialogues that come to rest. In given surroundings such a dialogue comes to one result, whatever the time is, and leaves
the surroundings as they are; that it comes to it at all is part of this. It is shown part by part; and what was asked
once is asked again with the same result, where the secrets are the same and the broker.
-/

namespace BrokerFleet

open Kubernetes

/-- The call writes a StatefulSet, or the status of a cluster or a pod, or it is about an evacuation. -/
def Call.Disturbs : Call → Prop
  | .write _ w => w.kind = .cluster ∨ w.kind = .statefulSet ∨ w.kind = .pod
  | .send _ _ _ .loadStatus => True
  | .send _ _ _ (.startEvacuation ..) => True
  | _ => False

def Call.IsQuestion : Call → Prop
  | .getSecret .. => True
  | .send _ _ _ .nodes => True
  | .send _ _ _ .listeners => True
  | .send _ _ _ .availability => True
  | _ => False

theorem Call.IsQuestion.not_disturbs {c : Call} (question : c.IsQuestion) : ¬ c.Disturbs := by
  intro disturbs
  unfold IsQuestion at question
  split at question
  · exact disturbs
  · exact disturbs
  · exact disturbs
  · exact disturbs
  · exact question

namespace Surroundings

def Answers (w : Surroundings) (c : Call) (reply : c.Reply) : Prop :=
  ∀ other after, w.Step ⟨c, other⟩ after ↔ other = reply ∧ after = w

/-- Questions are answered as before. -/
structure AnswersAs (w before : Surroundings) : Prop where
  secrets : w.secrets = before.secrets
  broker : w.broker = before.broker

variable {w before : Surroundings} {c : Call} {ns name : String}

theorem AnswersAs.refl (w : Surroundings) : w.AnswersAs w :=
  ⟨rfl, rfl⟩

theorem AnswersAs.symm (alike : w.AnswersAs before) : before.AnswersAs w :=
  ⟨alike.secrets.symm, alike.broker.symm⟩

theorem AnswersAs.trans {w' : Surroundings} (alike : w'.AnswersAs w) (earlier : w.AnswersAs before) :
    w'.AnswersAs before :=
  ⟨alike.secrets.trans earlier.secrets, alike.broker.trans earlier.broker⟩

theorem answers_question (before : Surroundings) (question : c.IsQuestion) : ∃ reply, before.Answers c reply ∧
    ∀ {w : Surroundings}, w.AnswersAs before → w.Answers c reply := by
  have general : ∀ reply : c.Reply, (∀ {w : Surroundings}, w.AnswersAs before → w.Answers c reply) →
      ∃ reply, before.Answers c reply ∧ ∀ {w : Surroundings}, w.AnswersAs before → w.Answers c reply :=
    fun reply all => ⟨reply, all (.refl before), all⟩
  cases c with
  | getSecret ns name =>
      refine general ((before.secrets ns name).elim (.error .notFound) .ok) fun alike other after => ?_
      rw [← alike.secrets]
      exact and_comm
  | send peer port credentials request =>
      refine general (before.broker peer port credentials request) fun alike other after => ?_
      rw [← alike.broker]
      exact and_comm
  | _ => exact question.elim

theorem answers_getCluster {c : Cluster} (found : w.clusters ns name = some c) :
    w.Answers (.getCluster ns name) (.ok c) := by
  intro other after
  show after = w ∧ other = (w.clusters ns name).elim (.error .notFound) .ok ↔ _
  rw [found]
  exact and_comm

theorem answers_find {kind : ObjectKind} (there : w.There kind ns name) : w.Answers (.find kind ns name) (.ok ()) := by
  intro other after
  constructor
  · rintro ⟨unchanged, ⟨-, found⟩ | ⟨absent, -⟩⟩
    · exact ⟨found, unchanged⟩
    · exact absurd there absent
  · rintro ⟨found, unchanged⟩
    exact ⟨unchanged, .inl ⟨there, found⟩⟩

theorem answers_listSets {selector : String} :
    w.Answers (.listSets ns selector) (.ok (w.sets.listing ns selector)) :=
  fun _ _ => and_comm

theorem answers_listPods {selector : String} : w.Answers (.listPods ns selector) (.ok (w.podListing ns selector)) :=
  fun _ _ => and_comm

theorem answers_applyConfig {m : ConfigManifest} (there : w.There .configMap ns m.metadata.name) :
    w.Answers (.write ns (.applyConfig m)) (.ok ()) := by
  intro other after
  show other = .ok () ∧ after = { w with configs := insert (ns, m.metadata.name) w.configs } ↔ _
  rw [Set.insert_eq_of_mem there]

theorem answers_applyService {m : ServiceManifest} (there : w.There .service ns m.metadata.name) :
    w.Answers (.write ns (.applyService m)) (.ok ()) := by
  intro other after
  show other = .ok () ∧ after = { w with services := insert (ns, m.metadata.name) w.services } ↔ _
  rw [Set.insert_eq_of_mem there]

end Surroundings

namespace Dialogue

variable {α β : Type} {w after : Surroundings} {log : List Exchange}

def LeadsTo (w : Surroundings) : Dialogue α → α → Prop
  | .done b, a => b = a
  | .ask c next, a => ¬ c.Disturbs ∧ (∃ reply, w.Step ⟨c, reply⟩ w) ∧
    ∀ reply after, w.Step ⟨c, reply⟩ after → after = w ∧ (next reply).LeadsTo w a

theorem LeadsTo.comes {d : Dialogue α} {a : α} (leads : d.LeadsTo w a) : ∃ log, d.Yields log a ∧ w.Along log w := by
  induction d with
  | done b =>
      cases leads
      exact ⟨[], .done _, .nil w⟩
  | ask c next ih =>
      obtain ⟨-, ⟨reply, answered⟩, goes⟩ := leads
      obtain ⟨log, yields, along⟩ := ih reply (goes reply w answered).2
      exact ⟨⟨c, reply⟩ :: log, .ask reply yields, .cons answered along⟩

theorem LeadsTo.only {d : Dialogue α} {a b : α} (leads : d.LeadsTo w a) (yields : d.Yields log b)
    (along : w.Along log after) : b = a ∧ after = w ∧ ∀ x ∈ log, ¬ x.call.Disturbs := by
  induction yields generalizing w with
  | done b => exact ⟨leads, Surroundings.along_nil.mp along, fun _ member => nomatch member⟩
  | ask reply rest ih =>
      obtain ⟨between, step, later⟩ := Surroundings.along_cons.mp along
      obtain ⟨calm, -, goes⟩ := leads
      obtain ⟨rfl, next⟩ := goes reply between step
      obtain ⟨same, unchanged, others⟩ := ih next later
      refine ⟨same, unchanged, fun x member => ?_⟩
      rcases List.mem_cons.mp member with rfl | among
      · exact calm
      · exact others x among

theorem LeadsTo.unique {d : Dialogue α} {a b : α} (first : d.LeadsTo w a) (second : d.LeadsTo w b) : a = b := by
  obtain ⟨log, yields, along⟩ := first.comes
  exact (second.only yields along).1

theorem leadsTo_bind {d : Dialogue α} {f : α → Dialogue β} {a : α} {b : β} (first : d.LeadsTo w a)
    (rest : (f a).LeadsTo w b) : (d.bind f).LeadsTo w b := by
  induction d with
  | done a' =>
      cases first
      exact rest
  | ask c next ih =>
      obtain ⟨calm, answered, goes⟩ := first
      exact ⟨calm, answered, fun reply after step =>
        ⟨(goes reply after step).1, ih reply (goes reply after step).2⟩⟩

theorem Yields.leadsTo {d : Dialogue α} {a : α} (yields : d.Yields log a) (asks : d.Asks Call.IsQuestion)
    (along : w.Along log after) : after = w ∧ ∀ {w' : Surroundings}, w'.AnswersAs w → d.LeadsTo w' a := by
  induction yields generalizing w with
  | done b => exact ⟨Surroundings.along_nil.mp along, fun _ => rfl⟩
  | @ask c next log a reply rest ih =>
      obtain ⟨question, others⟩ := asks
      obtain ⟨fixed, here, everywhere⟩ := Surroundings.answers_question w question
      obtain ⟨between, step, later⟩ := Surroundings.along_cons.mp along
      obtain ⟨rfl, rfl⟩ := (here reply between).mp step
      obtain ⟨unchanged, goes⟩ := ih (others reply) later
      refine ⟨unchanged, fun alike => ⟨question.not_disturbs, ⟨reply, ?_⟩, fun other after' step' => ?_⟩⟩
      · exact (everywhere alike reply _).mpr ⟨rfl, rfl⟩
      · obtain ⟨rfl, rfl⟩ := (everywhere alike other after').mp step'
        exact ⟨rfl, goes alike⟩

theorem LeadsTo.again {d : Dialogue α} {a : α} (leads : d.LeadsTo w a) (asks : d.Asks Call.IsQuestion)
    {w' : Surroundings} (alike : w'.AnswersAs w) : d.LeadsTo w' a := by
  obtain ⟨log, yields, along⟩ := leads.comes
  exact (yields.leadsTo asks along).2 alike

end Dialogue

namespace Attempt

variable {ε ε' α β : Type} {w after : Surroundings} {log : List Exchange}

def LeadsTo (w : Surroundings) (a : Attempt ε α) (r : Except ε α) : Prop :=
  Dialogue.LeadsTo w a.run r

theorem LeadsTo.only {a : Attempt ε α} {r r' : Except ε α} (leads : a.LeadsTo w r) (ends : a.Ends log r')
    (along : w.Along log after) : r' = r ∧ after = w ∧ ∀ x ∈ log, ¬ x.call.Disturbs :=
  Dialogue.LeadsTo.only leads ends along

theorem leadsTo_pure {a : α} : LeadsTo w (pure a : Attempt ε α) (.ok a) :=
  rfl

theorem leadsTo_bind {a : Attempt ε α} {f : α → Attempt ε β} {x : α} {r : Except ε β} (first : a.LeadsTo w (.ok x))
    (rest : (f x).LeadsTo w r) : LeadsTo w (a >>= f) r :=
  Dialogue.leadsTo_bind first rest

theorem leadsTo_ofExcept_bind {g : ε → ε'} {result : Except ε α} {f : α → Attempt ε' β} {x : α} {r : Except ε' β}
    (ok : result = .ok x) (rest : (f x).LeadsTo w r) : LeadsTo w (ofExcept g result >>= f) r := by
  subst ok
  exact rest

theorem leadsTo_call_bind {c : Call} {f : c.Reply → Attempt ε β} {reply : c.Reply} {r : Except ε β}
    (calm : ¬ c.Disturbs) (answers : w.Answers c reply) (rest : (f reply).LeadsTo w r) :
    LeadsTo w ((call c : Attempt ε c.Reply) >>= f) r := by
  refine ⟨calm, ⟨reply, (answers reply w).mpr ⟨rfl, rfl⟩⟩, fun other after step => ?_⟩
  obtain ⟨rfl, unchanged⟩ := (answers other after).mp step
  exact ⟨unchanged, rest⟩

theorem leadsTo_now_bind {f : Instant → Attempt ε β} {r : Except ε β} (rest : ∀ t, (f t).LeadsTo w r) :
    LeadsTo w ((now : Attempt ε Instant) >>= f) r :=
  ⟨fun disturbs => disturbs, ⟨default, rfl⟩, fun t _ step => ⟨step, rest t⟩⟩

theorem leadsTo_lift_bind {d : Dialogue α} {f : α → Attempt ε β} {x : α} {r : Except ε β} (first : d.LeadsTo w x)
    (rest : (f x).LeadsTo w r) : LeadsTo w ((ExceptT.lift d : Attempt ε α) >>= f) r :=
  leadsTo_bind (Dialogue.leadsTo_bind first rfl) rest

theorem leadsTo_outcome_bind {a : Attempt ε α} {f : Except ε α → Attempt ε' β} {x : Except ε α} {r : Except ε' β}
    (first : a.LeadsTo w x) (rest : (f x).LeadsTo w r) :
    LeadsTo w ((a.outcome : Attempt ε' (Except ε α)) >>= f) r :=
  leadsTo_lift_bind first rest

theorem Ends.leadsTo {a : Attempt ε α} {r : Except ε α} (ends : a.Ends log r) (asks : a.Asks Call.IsQuestion)
    (along : w.Along log after) : after = w ∧ ∀ {w' : Surroundings}, w'.AnswersAs w → a.LeadsTo w' r :=
  Dialogue.Yields.leadsTo ends asks along

end Attempt

end BrokerFleet
