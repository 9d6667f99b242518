import BrokerFleet.Proofs.Heeding
import BrokerFleet.Proofs.Pass.Effects
import BrokerFleet.Proofs.Pass.Unhindered
import BrokerFleet.Proofs.Pass.Vocabulary

/-!
What a pass does before the objects are there that generations need. It makes no generation, gates no pod, publishes no
listener and asks no broker before it has read back all of those objects; over a cluster that no pass has seen it writes
nothing but the status; and it makes the secret only where it has just found none, so that a secret that is stored keeps
its content, also where somebody else makes it first.
-/

namespace BrokerFleet

open Kubernetes Attempt

/-- The call is about what needs the bootstrap objects of the cluster: it writes a StatefulSet or a pod, publishes the
listeners, or asks a broker. -/
def Call.NeedsResources (c : Cluster) : Call → Prop
  | .write _ w => w.kind = .statefulSet ∨ w.kind = .pod ∨ (w.kind = .service ∧ w.name = c.listenersName)
  | .send .. => True
  | _ => False

theorem Step.vocabulary_not_secret {step : Step} {call : Call} (other : step ≠ .initResources)
    (within : step.vocabulary call) : ∀ ns w, call = .write ns w → w.kind ≠ .secret := by
  rintro ns w rfl secret
  cases w with
  | createSecret manifest => cases step <;> first | exact other rfl | exact within
  | _ => cases secret

namespace Cluster

def IsNew (c : Cluster) : Prop :=
  (c.status.getD .initial).currentState = .empty

def FindsResources (c : Cluster) (log : List Exchange) : Prop :=
  ∃ ns, c.placed = .ok ns ∧ ⟨.find .secret ns c.secretName, .ok ()⟩ ∈ log ∧
    ⟨.find .configMap ns c.configName, .ok ()⟩ ∈ log ∧ ⟨.find .service ns c.headlessName, .ok ()⟩ ∈ log

def MakesSecret (c : Cluster) (log : List Exchange) (ns : String) (w : Write) : Prop :=
  ∃ before key e, log = before ++ [⟨.find .secret ns c.secretName, .error e⟩, ⟨.freshKey, key⟩] ∧
    e.isNotFound = true ∧ c.placed = .ok ns ∧ w = .createSecret (c.bootstrapSecret key)

/-- A pass over the cluster may make the call, in view of the exchanges before. -/
structure Permits (c : Cluster) (log : List Exchange) (call : Call) : Prop where
  gated : call.NeedsResources c → c.FindsResources log
  new : c.IsNew → call = .clock ∨ ∃ ns status, c.placed = .ok ns ∧ call = .write ns (.clusterStatus c.name status)
  secrets : ∀ ns w, call = .write ns w → w.kind = .secret → c.MakesSecret log ns w

variable {c latest : Cluster} {pace : Pace} {p : ClusterPass} {log : List Exchange} {ns : String}

theorem FindsResources.append (finds : c.FindsResources log) (later : List Exchange) : c.FindsResources (log ++ later) := by
  obtain ⟨ns, place, secret, config, service⟩ := finds
  exact ⟨ns, place, List.mem_append_left _ secret, List.mem_append_left _ config, List.mem_append_left _ service⟩

theorem headlessName_ne_listenersName : c.headlessName ≠ c.listenersName := by
  intro same
  have same : "-headless" = "-listeners" := by
    simpa only [headlessName, listenersName, String.append_right_inj] using same
  exact absurd same (by decide)

theorem permits_clock : c.Permits log .clock where
  gated needs := needs.elim
  new _ := .inl rfl
  secrets _ _ same := nomatch same

theorem permits_of_bootstrap {call : Call} (seen : ¬ c.IsNew) (free : ¬ call.NeedsResources c)
    (other : ∀ ns w, call = .write ns w → w.kind ≠ .secret) : c.Permits log call where
  gated needs := absurd needs free
  new isNew := absurd isNew seen
  secrets ns w same secret := absurd secret (other ns w same)

theorem permits_status {status : ClusterStatus} (place : c.placed = .ok ns) :
    c.Permits log (.write ns (.clusterStatus c.name status)) where
  gated needs := by
    rcases needs with h | h | ⟨h, -⟩ <;> cases h
  new _ := .inr ⟨ns, status, place, rfl⟩
  secrets _ _ same secret := by
    cases same
    cases secret

/-! ### The objects that generations need -/

theorem isThere_ends {kind : ObjectKind} {name : String} {found : Bool}
    (ends : (Pass.isThere kind ns name).Ends log (.ok found)) :
    ∃ reply, log = [⟨.find kind ns name, reply⟩] ∧ (found = true → reply = .ok ()) ∧
      (found = false → ∃ e, reply = .error e ∧ e.isNotFound = true) := by
  obtain ⟨reply, rest, rfl, answered⟩ := ends_call_bind.mp ends
  obtain ⟨there, known, follows⟩ := ends_ofExcept_bind_ok answered
  obtain ⟨rfl, same⟩ := ends_pure.mp follows
  cases same
  refine ⟨reply, rfl, ?_⟩
  cases reply with
  | ok _ =>
      cases known
      exact ⟨fun _ => rfl, fun absent => nomatch absent⟩
  | error e =>
      unfold ApiError.orMissing at known
      dsimp only at known
      split at known
      · next missing =>
        cases known
        exact ⟨fun there => (nomatch there), fun _ => ⟨e, rfl, missing⟩⟩
      · cases known

theorem ensureResources_finds (ends : c.ensureResources.Ends log (.ok true)) : c.FindsResources log := by
  unfold ensureResources at ends
  obtain ⟨ns, place, placed⟩ := ends_ofExcept_bind_ok ends
  obtain ⟨_, first, rest, rfl, -, made⟩ := ends_bind_ok placed
  obtain ⟨_, config, afterConfig, rfl, -, configured⟩ := ends_bind_ok made
  obtain ⟨_, service, reading, rfl, -, reads⟩ := ends_bind_ok configured
  unfold resourcesReady at reads
  have left : ∀ {found : Bool} {next : Pass Bool} {log : List Exchange},
      Ends (if (!found) = true then return false else next) log (.ok true) →
        found = true ∧ next.Ends log (.ok true) := by
    intro found next log ends
    cases found with
    | true => exact ⟨rfl, ends⟩
    | false => cases (ends_pure.mp ends).2
  obtain ⟨secretThere, secretRead, others, rfl, secretFound, goes⟩ := ends_bind_ok reads
  obtain ⟨rfl, goes⟩ := left goes
  obtain ⟨configThere, configRead, serviceRead, rfl, configFound, goes⟩ := ends_bind_ok goes
  obtain ⟨rfl, serviceFound⟩ := left goes
  obtain ⟨_, rfl, secretRead⟩ := isThere_ends secretFound
  obtain ⟨_, rfl, configRead⟩ := isThere_ends configFound
  obtain ⟨_, rfl, serviceRead⟩ := isThere_ends serviceFound
  cases secretRead.1 rfl
  cases configRead.1 rfl
  cases serviceRead.1 rfl
  refine ⟨ns, place, ?_, ?_, ?_⟩ <;> simp

theorem bootstrapStep_finds (waits : p.initReady = false) {next : ClusterPass}
    (ends : (c.bootstrapStep pace p).Ends log (.ok next)) (going : next.halted = false) :
    p.status.currentState ≠ .empty ∧ c.FindsResources log := by
  have halts : ∀ {f g : Instant → ClusterPass} {log : List Exchange}, (∀ now, (f now).halted = true) → ¬ Ends (do
      let now ← Attempt.now
      if (p.status.advance (.pending c.capability c.spec.replicas) now).2 = .halt then return f now
      else return g now : Pass ClusterPass) log (.ok next) := by
    intro f g log halted ends
    obtain ⟨now, rest, rfl, follows⟩ := ends_now_bind.mp ends
    rw [if_pos advance_pending] at follows
    cases (ends_pure.mp follows).2
    rw [halted] at going
    cases going
  unfold bootstrapStep at ends
  dsimp only at ends
  split at ends
  · obtain ⟨ready, first, rest, rfl, same, follows⟩ := ends_bind_ok ends
    obtain ⟨rfl, same⟩ := ends_pure.mp same
    cases same
    rw [waits, if_neg Bool.false_ne_true] at follows
    exact absurd follows (halts fun _ => rfl)
  · next left =>
    obtain ⟨ready, first, rest, rfl, ensured, follows⟩ := ends_bind_ok ends
    cases ready with
    | true => exact ⟨left, (ensureResources_finds ensured).append rest⟩
    | false =>
        rw [if_neg Bool.false_ne_true] at follows
        exact absurd follows (halts fun _ => rfl)

/-! ### What may be called -/

theorem isThere_heeds {P : List Exchange → Call → Prop} {kind : ObjectKind} {name : String}
    (here : P log (.find kind ns name)) : (Pass.isThere kind ns name).Heeds P log :=
  heeds_call_bind here fun _ => heeds_bind heeds_ofExcept fun _ _ _ => heeds_pure

theorem ensureSecret_heeds (seen : ¬ c.IsNew) (place : c.placed = .ok ns) :
    (c.ensureSecret ns).Heeds c.Permits log := by
  unfold ensureSecret
  refine heeds_bind (isThere_heeds (permits_of_bootstrap seen (fun h => h) fun _ _ h => nomatch h)) ?_
  intro later there came
  split
  · exact heeds_pure
  · next missing =>
    obtain ⟨reply, rfl, -, absent⟩ := isThere_ends came
    obtain ⟨e, rfl, notFound⟩ := absent (by simpa using missing)
    refine heeds_call_bind (permits_of_bootstrap seen (fun h => h) fun _ _ h => nomatch h) fun key => ?_
    refine heeds_call_bind ⟨fun needs => ?_, fun isNew => absurd isNew seen, fun ns' w same _ => ?_⟩ fun reply => ?_
    · rcases needs with h | h | ⟨h, -⟩ <;> cases h
    · cases same
      exact ⟨log, key, e, by simp, notFound, place, rfl⟩
    · cases reply with
      | ok _ =>
          have told : ∀ log event, c.Permits log (.tell event) :=
            fun _ _ => permits_of_bootstrap seen (fun h => h) fun _ _ h => nomatch h
          exact ⟨told _ _, fun _ => trivial⟩
      | error e =>
          dsimp only
          split
          · exact heeds_pure
          · exact heeds_fail

theorem ensureResources_heeds (seen : ¬ c.IsNew) : c.ensureResources.Heeds c.Permits log := by
  have plain : ∀ {log : List Exchange} {kind : ObjectKind} {ns name : String}, c.Permits log (.find kind ns name) :=
    permits_of_bootstrap seen (fun h => h) fun _ _ h => nomatch h
  have applied : ∀ {log : List Exchange} {ns : String} {w : Write},
      w = .applyConfig c.configMap ∨ w = .applyService c.headlessService → c.Permits log (.write ns w) := by
    rintro log ns w (rfl | rfl)
    · refine permits_of_bootstrap seen (fun needs => ?_) fun _ _ same secret => ?_
      · rcases needs with h | h | ⟨h, -⟩ <;> cases h
      · cases same
        cases secret
    · refine permits_of_bootstrap seen (fun needs => ?_) fun _ _ same secret => ?_
      · rcases needs with h | h | ⟨-, h⟩
        · cases h
        · cases h
        · exact headlessName_ne_listenersName h
      · cases same
        cases secret
  unfold ensureResources
  refine heeds_ofExcept_bind fun ns place => heeds_bind (ensureSecret_heeds seen place) fun _ _ _ => ?_
  refine heeds_bind (heeds_call_bind (applied (.inl rfl)) fun _ => heeds_ofExcept) fun _ _ _ => ?_
  refine heeds_bind (heeds_call_bind (applied (.inr rfl)) fun _ => heeds_ofExcept) fun _ _ _ => ?_
  unfold resourcesReady
  refine heeds_bind (isThere_heeds plain) fun _ secret _ => ?_
  split
  · exact heeds_pure
  · refine heeds_bind (isThere_heeds plain) fun _ config _ => ?_
    split
    · exact heeds_pure
    · exact isThere_heeds plain

theorem bootstrapStep_heeds (stands : p.status = c.status.getD .initial) :
    (c.bootstrapStep pace p).Heeds c.Permits log := by
  have looks : ∀ {log : List Exchange} {f : Instant → Pass ClusterPass},
      (∀ now log, (f now).Heeds c.Permits log) → ((Attempt.now : Pass Instant) >>= f).Heeds c.Permits log :=
    fun follows => heeds_call_bind permits_clock fun now => follows now _
  unfold bootstrapStep
  dsimp only
  split
  · refine heeds_bind heeds_pure fun _ ready _ => ?_
    split
    · exact heeds_pure
    · refine looks fun now log => ?_
      split
      · exact heeds_pure
      · exact heeds_pure
  · next left =>
    rw [stands] at left
    refine heeds_bind (ensureResources_heeds left) fun _ ready _ => ?_
    split
    · exact heeds_pure
    · refine looks fun now log => ?_
      split
      · exact heeds_pure
      · exact heeds_pure

theorem runSteps_heeds {steps : List Step} (other : .initResources ∉ steps) (seen : ¬ c.IsNew)
    (finds : c.FindsResources log) : (c.runSteps pace steps p).Heeds c.Permits log := by
  induction steps generalizing p log with
  | nil => trivial
  | cons step rest ih =>
      have first : step ≠ .initResources := fun same => other (same ▸ List.mem_cons_self)
      have taken : (step.run c pace p).Heeds c.Permits log := by
        refine Dialogue.Heeds.imp (P := fun log call =>
          c.FindsResources log ∧ ∀ ns w, call = .write ns w → w.kind ≠ .secret) (fun log call h => ?_) ?_
        · exact ⟨fun _ => h.1, fun isNew => absurd isNew seen, fun ns w same secret => absurd secret (h.2 ns w same)⟩
        · refine heeds_of_asks (fun _ later _ h => ⟨h.1.append later, h.2⟩) ?_
          exact step.run_asks.imp fun call within => ⟨finds, Step.vocabulary_not_secret first within⟩
      refine Dialogue.heeds_bind taken fun later result _ => ?_
      cases result with
      | error e => trivial
      | ok next =>
          dsimp only
          split
          · trivial
          · exact ih (fun member => other (List.mem_cons_of_mem _ member)) (finds.append later)

theorem writeStatus_heeds {status : ClusterStatus} : (c.writeStatus status).Heeds c.Permits log := by
  unfold writeStatus
  split
  · exact heeds_pure
  · exact heeds_ofExcept_bind fun ns place => heeds_call_bind (permits_status place) fun _ => heeds_ofExcept

theorem passOver_heeds (latest : Cluster) (pace : Pace) : (latest.passOver pace).Heeds latest.Permits [] := by
  have steps : (latest.runSteps pace Step.all (.start (latest.status.getD .initial))).Heeds latest.Permits [] := by
    refine Dialogue.heeds_bind (bootstrapStep_heeds rfl) fun later result ends => ?_
    cases result with
    | error e => trivial
    | ok next =>
        dsimp only
        split
        · trivial
        · next going =>
          obtain ⟨left, finds⟩ := bootstrapStep_finds rfl ends (by simpa using going)
          exact runSteps_heeds (by decide) left finds
  unfold passOver
  refine heeds_bind (Dialogue.heeds_bind steps fun _ _ _ => trivial) fun _ ⟨q, failure⟩ _ => ?_
  refine heeds_call_bind permits_clock fun now => heeds_outcome_bind writeStatus_heeds fun _ written _ => ?_
  split
  · exact heeds_fail
  · exact heeds_fail
  · exact heeds_pure

/-- A pass that has come some way has read the cluster first, if it has done anything, and each call since then was
permitted. -/
theorem pass_permitted {d : Dialogue (Except Failure Action)} (comes : Dialogue.Comes (c.pass pace).run log d) :
    log = [] ∨ ∃ ns reply rest, log = ⟨.getCluster ns c.name, reply⟩ :: rest ∧ (rest = [] ∨ ∃ latest,
      reply = .ok latest ∧ ∀ before x after, rest = before ++ x :: after → latest.Permits before x.call) := by
  cases place : c.placed with
  | error e =>
      have stuck : (c.pass pace).run = .done (.error (.object e)) := by
        unfold pass Pass.object
        rw [place]
        rfl
      rw [stuck] at comes
      cases comes
      exact .inl rfl
  | ok ns =>
      have asks : ∃ next, (c.pass pace).run = .ask (.getCluster ns c.name) next ∧
          ∀ reply, (∃ r, next reply = .done r) ∨
            ∃ latest, reply = .ok latest ∧ next reply = (latest.passOver pace).run := by
        unfold pass Pass.object
        rw [place]
        refine ⟨_, rfl, fun reply => ?_⟩
        cases reply with
        | error e => exact .inl ⟨_, rfl⟩
        | ok latest =>
            have goes : ∀ deleted : Bool, (∃ r, (if deleted = true then return .await
                else latest.passOver pace : Pass Action).run = .done r) ∨ (if deleted = true then return .await
                else latest.passOver pace : Pass Action).run = (latest.passOver pace).run := by
              intro deleted
              cases deleted with
              | true => exact .inl ⟨_, rfl⟩
              | false => exact .inr rfl
            exact (goes _).imp id fun same => ⟨latest, rfl, same⟩
      obtain ⟨next, asked, answers⟩ := asks
      rw [asked] at comes
      cases comes with
      | here => exact .inl rfl
      | ask reply rest =>
          refine .inr ⟨ns, reply, _, rfl, ?_⟩
          rcases answers reply with ⟨r, done⟩ | ⟨latest, same, goes⟩
          · rw [done] at rest
            cases rest
            exact .inl rfl
          · rw [goes] at rest
            refine .inr ⟨latest, same, fun before x after made => ?_⟩
            subst made
            exact (passOver_heeds latest pace).of_split rest

end Cluster

/-! ### Secrets that are stored -/

abbrev SecretStore := String × String → Option Secret

namespace SecretStore

/-- What becomes of the secrets when a pass makes a call. A write to a secret changes that one, and one that creates
leaves a secret that is there as it is, whatever the API answers. -/
def Step (s : SecretStore) (x : Exchange) (after : SecretStore) : Prop :=
  match x.call with
  | .write ns w => (∀ key, ¬ (w.kind = .secret ∧ key = (ns, w.name)) → after key = s key) ∧
      (w.verb = .create → ∀ key content, s key = some content → after key = some content)
  | _ => after = s

/-- What becomes of the secrets while passes make calls one after the other and others make secrets at any moment. -/
inductive Along : SecretStore → List Exchange → SecretStore → Prop where
  | nil (s : SecretStore) : Along s [] s
  | call {s between after : SecretStore} {x : Exchange} {log : List Exchange} (first : s.Step x between)
      (rest : Along between log after) : Along s (x :: log) after
  | others {s between after : SecretStore} {log : List Exchange}
      (keep : ∀ key content, s key = some content → between key = some content) (rest : Along between log after) :
      Along s log after

variable {s after : SecretStore} {log : List Exchange}

theorem Step.keeps {x : Exchange} (step : s.Step x after)
    (creates : ∀ ns w, x.call = .write ns w → w.kind = .secret → w.verb = .create) {key : String × String}
    {content : Secret} (held : s key = some content) : after key = some content := by
  unfold Step at step
  split at step
  · next ns w same =>
    by_cases secret : w.kind = .secret
    · exact step.2 (creates ns w same secret) key content held
    · rw [step.1 key fun h => secret h.1, held]
  · rw [step, held]

theorem Along.keeps (along : s.Along log after)
    (creates : ∀ x ∈ log, ∀ ns w, x.call = .write ns w → w.kind = .secret → w.verb = .create)
    {key : String × String} {content : Secret} (held : s key = some content) : after key = some content := by
  induction along with
  | nil s => exact held
  | call first rest ih =>
      exact ih (fun x member => creates x (List.mem_cons_of_mem _ member))
        (first.keeps (creates _ List.mem_cons_self) held)
  | others keep rest ih => exact ih creates (keep _ _ held)

end SecretStore

/-! ### Passes over clusters -/

/-- The exchanges are those of a pass that came to an end or was cut short. -/
def IsPass (log : List Exchange) : Prop :=
  ∃ (c : Cluster) (pace : Pace) (d : Dialogue (Except Failure Action)), Dialogue.Comes (c.pass pace).run log d

theorem IsPass.permitted {log : List Exchange} (pass : IsPass log) {before after : List Exchange} {x : Exchange}
    (made : log = before ++ x :: after) :
    (before = [] ∧ ∃ ns name, x.call = .getCluster ns name) ∨ ∃ ns name latest seen,
      before = ⟨.getCluster ns name, .ok latest⟩ :: seen ∧ latest.Permits seen x.call := by
  obtain ⟨c, pace, d, comes⟩ := pass
  rcases Cluster.pass_permitted comes with rfl | ⟨ns, reply, rest, rfl, goes⟩
  · exact absurd made (by simp)
  cases before with
  | nil =>
      cases made
      exact .inl ⟨rfl, _, _, rfl⟩
  | cons first seen =>
      cases made
      rcases goes with none | ⟨latest, rfl, permitted⟩
      · exact absurd none (by simp)
      · exact .inr ⟨ns, c.name, latest, seen, rfl, permitted seen x after rfl⟩

theorem IsPass.creates {log : List Exchange} (pass : IsPass log) {x : Exchange} (member : x ∈ log) :
    ∀ ns w, x.call = .write ns w → w.kind = .secret → w.verb = .create := by
  intro ns w same secret
  obtain ⟨before, after, made⟩ := List.append_of_mem member
  rcases pass.permitted made with ⟨-, _, _, other⟩ | ⟨_, _, latest, seen, -, permits⟩
  · cases other.symm.trans same
  · obtain ⟨_, _, _, -, -, -, rfl⟩ := permits.secrets ns w same secret
    rfl

/-- In passes that follow each other, be they cut short or met by failures, each call after the reading of the cluster
is permitted in view of what its pass has seen: what generations need was read back before anything is made of it, a
cluster that is new has nothing but its status written, and a secret is made only where none was found just before.
From any moment on, what a secret holds that is stored then stays as it is, also if others make secrets meanwhile. -/
theorem passes_wait_for_resources {course : List (List Exchange)} (passes : ∀ log ∈ course, IsPass log) :
    (∀ log ∈ course, ∀ before x after, log = before ++ x :: after →
      (before = [] ∧ ∃ ns name, x.call = .getCluster ns name) ∨ ∃ ns name latest seen,
        before = ⟨.getCluster ns name, .ok latest⟩ :: seen ∧ latest.Permits seen x.call) ∧
    ∀ before rest, course.flatten = before ++ rest → ∀ (s after : SecretStore) (key : String × String)
      (content : Secret), s.Along rest after → s key = some content → after key = some content := by
  refine ⟨fun log member before x after made => (passes log member).permitted made, ?_⟩
  intro before rest split s after key content along held
  refine along.keeps (fun x member => ?_) held
  have made : x ∈ course.flatten := split ▸ List.mem_append_right _ member
  obtain ⟨log, pass, there⟩ := List.mem_flatten.mp made
  exact (passes log pass).creates there

def waitingCluster : Cluster :=
  sampleCluster "broker:1" { ClusterStatus.initial with currentState := .initResourceReady }

/-- A pass that finds no secret, and then cannot make it since somebody else has made it meanwhile. -/
def lostRace : List Exchange :=
  [⟨.getCluster "default" "broker", .ok waitingCluster⟩,
    ⟨.find .secret "default" waitingCluster.secretName, .error .notFound⟩, ⟨.freshKey, "ours"⟩,
    ⟨.write "default" (.createSecret (waitingCluster.bootstrapSecret "ours")), .error .conflict⟩]

def sampleSecrets : SecretStore :=
  fun key => if key = ("default", waitingCluster.secretName) then some sampleSecret else none

theorem secret_of_others_kept : (∀ log ∈ [lostRace], IsPass log) ∧
    (∃ seen, waitingCluster.Permits seen (.write "default" (.createSecret (waitingCluster.bootstrapSecret "ours")))) ∧
    ∀ after : SecretStore, sampleSecrets.Along (lostRace.drop 3) after →
      after ("default", waitingCluster.secretName) = some sampleSecret := by
  have passes : ∀ log ∈ [lostRace], IsPass log := by
    intro log member
    cases List.mem_singleton.mp member
    exact ⟨waitingCluster, default, _, .ask _ (.ask _ (.ask _ (.ask _ (.here _))))⟩
  obtain ⟨permitted, kept⟩ := passes_wait_for_resources passes
  refine ⟨passes, ?_, fun after along => ?_⟩
  · rcases permitted lostRace List.mem_cons_self (lostRace.take 3) _ [] rfl with
      ⟨none, -⟩ | ⟨_, _, _, seen, same, permits⟩
    · cases none
    · cases same
      exact ⟨_, permits⟩
  · exact kept (lostRace.take 3) (lostRace.drop 3) rfl _ _ _ _ along (if_pos rfl)

end BrokerFleet
