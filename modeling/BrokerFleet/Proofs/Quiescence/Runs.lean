import BrokerFleet.Proofs.Pass.Unhindered
import BrokerFleet.Proofs.Quiescence.Repetition

/-!
Runs of steps that are taken again. The steps of a pass that came through find their objects as they left them; so over
the cluster with the status that the pass settled on they come through again, to that status and with the same request.
-/

namespace BrokerFleet

open Kubernetes Attempt

def ClusterPass.collected (status : ClusterStatus) (generations : List Generation) (update : String) : ClusterPass :=
  { start status with initReady := true, generations, update := some update }

namespace Cluster

variable {c : Cluster} {pace : Pace} {s : ClusterStatus} {p q next : ClusterPass} {w after : Surroundings}
  {log : List Exchange} {steps rest : List Step} {ns name : String}

/-! ### Runs of steps that are taken again -/

def Retakes (c : Cluster) (pace : Pace) (w : Surroundings) : List Step → ClusterPass → ClusterPass → Prop
  | [], p, q => q = p
  | step :: rest, p, q =>
    ∃ next, (step.run c pace p).LeadsTo w (.ok next) ∧ next.halted = false ∧ c.Retakes pace w rest next q

theorem Retakes.append (first : c.Retakes pace w steps p next) (later : c.Retakes pace w rest next q) :
    c.Retakes pace w (steps ++ rest) p q := by
  induction steps generalizing p with
  | nil =>
      cases first
      exact later
  | cons step steps ih =>
      obtain ⟨reached, taken, going, others⟩ := first
      exact ⟨reached, taken, going, ih others⟩

theorem Retakes.leadsTo (retakes : c.Retakes pace w steps p q) : (c.runSteps pace steps p).LeadsTo w (q, none) := by
  induction steps generalizing p with
  | nil =>
      cases retakes
      exact rfl
  | cons step steps ih =>
      obtain ⟨reached, taken, going, others⟩ := retakes
      exact runSteps_leadTo taken going (ih others)

theorem Retakes.reaches (retakes : c.Retakes pace w steps p q)
    (going : p.halted = false) : ∃ log, c.Reaches pace steps p log q ∧ w.Along log w := by
  induction steps generalizing p with
  | nil =>
      cases retakes
      exact ⟨[], reaches_nil going, .nil w⟩
  | cons step steps ih =>
      obtain ⟨next, taken, onward, rest⟩ := retakes
      obtain ⟨first, ends, along⟩ := Dialogue.LeadsTo.comes taken
      obtain ⟨later, reaches, along'⟩ := ih rest onward
      exact ⟨first ++ later, reaches_cons step ends onward reaches, Surroundings.along_append.mpr ⟨w, along, along'⟩⟩

theorem Retakes.status (retakes : c.Retakes pace w steps p q) (later : .initResources ∉ steps)
    (status : Option ClusterStatus) : { c with status }.Retakes pace w steps p q := by
  induction steps generalizing p with
  | nil => exact retakes
  | cons step steps ih =>
      obtain ⟨reached, taken, going, others⟩ := retakes
      have other : step ≠ .initResources := fun same => later (same ▸ List.mem_cons_self)
      refine ⟨reached, ?_, going, ih others fun member => later (List.mem_cons_of_mem _ member)⟩
      rw [Step.run_status other]
      exact taken

theorem Reaches.same {kind : ObjectKind} (reaches : c.Reaches pace steps p log q) (along : w.Along log after)
    (other : ∀ step ∈ steps, kind ∉ step.kinds) : w.Same after kind := by
  refine along.same (runSteps_forall (fun step member p log r ends x among ns write same => ?_) reaches.1)
  have within := step.run_asks.call_of_mem ends x among
  rw [same] at within
  exact fun same => other step member (same ▸ Step.kind_of_write within)

theorem Reaches.split (steps : List Step) (reaches : c.Reaches pace (steps ++ rest) p log q)
    (going : p.halted = false) : ∃ next before later, log = before ++ later ∧ c.Reaches pace steps p before next ∧
      c.Reaches pace rest next later q := by
  rcases runSteps_append going reaches.1 with ⟨-, stops⟩ | ⟨next, before, later, rfl, came, follows⟩
  · rw [reaches.2] at stops
    cases stops rfl
  · exact ⟨next, before, later, rfl, came, follows, reaches.2⟩

theorem collecting_again (keyed : w.sets.Keyed)
    (came : c.Reaches pace [.initResources, .generations] (.start s) log p) (along : w.Along log after) :
    s.currentState ≠ .empty ∧ ∃ ns name sets, c.placed = .ok ns ∧ c.Provided after ns ∧
      p = .collected s (Generation.collect sets (after.podListing ns c.selector)) name ∧
      SameParts (·.name == some name) sets (after.sets.listing ns c.selector) ∧
      ∀ {w' : Surroundings} {status : ClusterStatus}, status.currentState ≠ .empty → w'.sets = after.sets →
        c.Provided w' ns →
        { c with status := some status }.Retakes pace w' [.initResources, .generations] (.start status)
          (.collected status
            (Generation.collect (after.sets.listing ns c.selector) (w'.podListing ns c.selector)) name) := by
  obtain ⟨p₁, first, _, rfl, boots, going, follows⟩ := came.uncons
  obtain ⟨p₂, second, _, rfl, collects, -, done⟩ := follows.uncons
  obtain ⟨rfl, same⟩ := runSteps_nil.mp done.1
  cases same
  rw [List.append_nil] at along
  obtain ⟨w₁, before, later⟩ := Surroundings.along_append.mp along
  have keyed₁ : w₁.sets.Keyed := by
    have unwritten : w.Same w₁ .statefulSet := Step.run_same boots before (by decide)
    exact (congrArg SetStore.Keyed unwritten).mpr keyed
  obtain ⟨ns, name, template, sets, place, desired, settles, parts, rfl⟩ :=
    generationStep_collected keyed₁ collects later
  obtain ⟨left, rfl, provided⟩ := bootstrapStep_provides place rfl boots going before
  refine ⟨left, ns, name, sets, place, provided.later later, rfl, parts, fun {w' status} left' kept provided' => ?_⟩
  have there : { c with status := some status }.Provided w' ns :=
    ⟨provided'.secret, provided'.config, provided'.service⟩
  refine ⟨_, bootstrapStep_leadsTo left' place there, rfl, _, ?_, rfl, rfl⟩
  rw [Step.run_status (by decide)]
  rw [← kept] at settles ⊢
  exact generationStep_leadsTo place desired settles

/-- Asking for nodes and advancing changes nothing around; and where the same generations are seen and the status says
what was seen, it does not change the status either. -/
theorem observing_again {generations : List Generation}
    (came : c.Reaches pace [.nodes, .stateMachine, .evacuation] (.collected s generations name) log q)
    (along : w.Along log after) (left : s.currentState ≠ .empty) (distinct : s.conditions.Distinct)
    (single : (Generation.live generations).length ≤ 1) :
    after = w ∧ q.status.Reflects (c.observe true q.status.nodes generations (some name)) ∧
      q = { ClusterPass.collected q.status generations name with link := q.link, requeue := q.requeue } ∧
      ∀ {w' : Surroundings} {status : ClusterStatus} {others : List Generation}, w'.AnswersAs w →
        Generation.Resembles name generations others →
        status.Reflects (c.observe true q.status.nodes generations (some name)) → status.nodes = q.status.nodes →
        c.Retakes pace w' [.nodes, .stateMachine, .evacuation] (.collected status others name)
          { ClusterPass.collected status others name with link := q.link, requeue := q.requeue } := by
  obtain ⟨p₁, first, _, rfl, asks, -, follows⟩ := came.uncons
  obtain ⟨p₂, second, _, rfl, advances, going, follows⟩ := follows.uncons
  obtain ⟨p₃, third, _, rfl, evacuates, -, done⟩ := follows.uncons
  obtain ⟨rfl, same⟩ := runSteps_nil.mp done.1
  cases same
  rw [List.append_nil] at along
  obtain ⟨w₁, before, later⟩ := Surroundings.along_append.mp along
  obtain ⟨w₂, between, last⟩ := Surroundings.along_append.mp later
  obtain ⟨rfl, nodes, link, requeue, rfl, asksAgain⟩ := nodeStep_again asks before
  -- Advancing writes nothing, so it leaves the surroundings that were asked for nodes.
  obtain rfl := Step.run_unchanged advances between rfl
  obtain ⟨now, told⟩ := stateStep_continues _ _ advances going
  have told : p₂ = { ClusterPass.collected (ClusterStatus.advance { s with nodes }
      (c.observe true nodes generations (some name)) now).1 generations name with link, requeue } := told
  have reflects : (ClusterStatus.advance { s with nodes } (c.observe true nodes generations (some name)) now).1.Reflects
      (c.observe true nodes generations (some name)) := ClusterStatus.advance_reflects distinct left rfl single
  have looked : (ClusterStatus.advance { s with nodes } (c.observe true nodes generations (some name)) now).1.nodes =
      nodes := ClusterStatus.advance_nodes
  generalize (ClusterStatus.advance { s with nodes } (c.observe true nodes generations (some name)) now).1 = advanced at *
  -- A status that says what was seen asks for no evacuation, so that step has no part in the log.
  have idle : c.evacuationStep pace p₂ = pure p₂ := evacuationStep_idle (told ▸ reflects.idle)
  have evacuates : (c.evacuationStep pace p₂).Ends third (.ok q) := evacuates
  rw [idle] at evacuates
  obtain ⟨rfl, same⟩ := ends_pure.mp evacuates
  cases same
  obtain rfl := Surroundings.along_nil.mp last
  subst told
  refine ⟨rfl, looked.symm ▸ reflects, rfl, fun {w' status others} alike resembles reflects' looked' => ?_⟩
  have looked' : status.nodes = nodes := looked'.trans looked
  have reflects' : status.Reflects (c.observe true nodes generations (some name)) := looked ▸ reflects'
  have asked : (c.nodeStep pace (.collected status others name)).LeadsTo w' _ :=
    asksAgain alike rfl rfl resembles.chooseReplica?
  subst looked'
  refine ⟨_, asked, rfl, _, stateStep_leadsTo fun now => ?_, rfl, _, evacuationStep_leadsTo reflects'.idle, rfl, rfl⟩
  show status.advance (c.observe true status.nodes others (some name)) now = (status, .continue)
  rw [resembles.observe single]
  exact reflects'.advance rfl single

theorem maintaining_again {sets : List StatefulSet} (place : c.placed = .ok ns)
    (collected : p.generations = Generation.collect sets (w.podListing ns c.selector))
    (distinct : ((w.podListing ns c.selector).map (·.name)).Nodup)
    (came : c.Reaches pace [.readinessGates, .listeners] p log q) (along : w.Along log after) :
    q = p ∧ after.AnswersAs w ∧
      (after.podListing ns c.selector).map Pod.ungated = (w.podListing ns c.selector).map Pod.ungated ∧
      ∀ {w' : Surroundings} {p' : ClusterPass} {others : List StatefulSet} {name : String}, w'.AnswersAs after →
        w'.pods = after.pods → w'.services = after.services →
        p'.generations = Generation.collect others (w'.podListing ns c.selector) →
        Generation.Resembles name p.generations p'.generations → p'.link = p.link →
        p'.status.currentGeneration = p.status.currentGeneration → p'.halted = false →
        c.Retakes pace w' [.readinessGates, .listeners] p' p' := by
  obtain ⟨p₁, first, _, rfl, gates, -, follows⟩ := came.uncons
  obtain ⟨p₂, second, _, rfl, publishes, -, done⟩ := follows.uncons
  obtain ⟨rfl, same⟩ := runSteps_nil.mp done.1
  cases same
  rw [List.append_nil] at along
  obtain ⟨w₁, before, later⟩ := Surroundings.along_append.mp along
  obtain rfl : p₁ = p := gateStep_gives _ _ gates
  obtain rfl : q = p₁ := listenerStep_gives _ _ publishes
  obtain ⟨alike, ungated, gatesAgain⟩ := gateStep_again place collected distinct gates before
  have pods : w₁.Same after .pod := Step.run_same publishes later (by decide)
  have secrets : w₁.Same after .secret := Step.run_same publishes later (by decide)
  have alike₁ : after.AnswersAs w₁ := ⟨secrets, later.broker⟩
  have pods : after.pods = w₁.pods := pods
  refine ⟨rfl, alike₁.trans alike, Surroundings.podListing_congr pods ▸ ungated, ?_⟩
  intro w' p' others name asks samePods services collected' resembles linked served going
  refine ⟨p', ?_, going, p', ?_, going, rfl⟩
  · exact gatesAgain (asks.trans alike₁) (samePods.trans pods) collected' resembles linked served
  · refine listenerStep_again place publishes later (asks.trans alike₁) (fun service there => ?_) linked
    show (ns, service) ∈ w'.services
    rw [services]
    exact there

/-- Steps that came through and collected no more than one live generation come through again over the cluster with the
status that was settled on, and lead to that status and the same request. -/
theorem steps_again (sound : w.Sound) (distinct : s.conditions.Distinct)
    (came : c.Reaches pace Step.all (.start s) log q) (along : w.Along log after)
    (single : ∀ first p, first <+: log → c.Reaches pace [.initResources, .generations] (.start s) first p →
      (Generation.live p.generations).length ≤ 1) (now : Instant) (clusters : String → String → Option Cluster) :
    ∃ q', { c with status := some (c.settled q none now) }.Retakes pace { after with clusters } Step.all
        (.start (c.settled q none now)) q' ∧ q'.status = c.settled q none now ∧ q'.requeue = q.requeue := by
  obtain ⟨p₂, first, _, rfl, collects, follows⟩ := Reaches.split [.initResources, .generations] came rfl
  obtain ⟨p₅, second, third, rfl, observes, maintains⟩ :=
    Reaches.split [.nodes, .stateMachine, .evacuation] follows collects.2
  obtain ⟨w₂, before, later⟩ := Surroundings.along_append.mp along
  obtain ⟨w₅, between, last⟩ := Surroundings.along_append.mp later
  have alone := single first p₂ (List.prefix_append ..) collects
  have pods : w.Same w₂ .pod := collects.same before (by decide)
  have named : ∀ ns, ((w₂.podListing ns c.selector).map (·.name)).Nodup := by
    intro ns
    have pods : w₂.pods = w.pods := pods
    rw [Surroundings.podListing_congr pods]
    exact Surroundings.podListing_names (sound.pods ns)
  have sets : w₅.Same after .statefulSet := maintains.same last (by decide)
  obtain ⟨left, ns, name, shown, place, provided, rfl, parts, collectsAgain⟩ :=
    collecting_again sound.keyed collects before
  obtain ⟨rfl, reflects, known, observesAgain⟩ := observing_again observes between left distinct alone
  have generations : p₅.generations = Generation.collect shown (w₅.podListing ns c.selector) :=
    congrArg ClusterPass.generations known
  obtain ⟨rfl, alike, ungated, maintainsAgain⟩ :=
    maintaining_again place generations (named ns) maintains last
  -- What the steps look at is the same again but for the cluster's status, and that reflects what they saw.
  have asks : Surroundings.AnswersAs { after with clusters } after := ⟨rfl, rfl⟩
  have settled : (c.settled q none now).Reflects
      (c.observe true q.status.nodes (Generation.collect shown (w₅.podListing ns c.selector)) (some name)) :=
    settled_reflects reflects
  have listed : Generation.Resembles name (Generation.collect shown (w₅.podListing ns c.selector))
      (Generation.collect (w₅.sets.listing ns c.selector) (after.podListing ns c.selector)) :=
    Generation.collect_resembles parts ungated
  have there : c.Provided { after with clusters } ns :=
    have last := provided.later later
    ⟨last.secret, last.config, last.service⟩
  have collected : { c with status := some (c.settled q none now) }.Retakes pace { after with clusters }
      [.initResources, .generations] (.start (c.settled q none now)) _ :=
    collectsAgain (by rw [settled.state]; decide) sets there
  have observed := observesAgain (asks.trans alike) listed settled rfl
  have kept := observed.append (maintainsAgain asks rfl rfl rfl (by rw [generations]; exact listed) rfl rfl rfl)
  exact ⟨_, collected.append (kept.status (by decide) _), rfl, rfl⟩

end Cluster

end BrokerFleet
