import Mathlib.Logic.Function.Basic
import Mathlib.Logic.Relation
import BrokerFleet.Proofs.Job.Grounds
import BrokerFleet.Proofs.Job.Unhindered

/-!
Passes over several jobs at once. A pass works on the copy of its job that it began with, and between two of its calls
other passes go on; the store refuses a status for a job that has changed since it was read. That does not keep two
jobs from processing on one cluster, since the listing that finds the cluster free and the status that claims it are
two calls. They stay apart as long as no job is recorded as processing while a pass over another one has found the
same cluster free and is still going on.
-/

namespace BrokerFleet

open Kubernetes

/-! ### What a pass looks at before it claims a cluster -/

namespace Job

variable {j : Job} {log : List Exchange} {status : JobStatus}

theorem Records.claims (records : j.Records log status) (processing : status.phase = some .processing) :
    j.phase? = some .processing ∨ j.Decides log .start := by
  cases records with
  | adopted decided _ _ => exact .inr decided
  | started decided _ _ _ _ => exact .inr decided
  | followed decided _ _ =>
      obtain ⟨_, _, _, _, _, _, polls⟩ := decided
      exact .inl (precheck_poll polls)
  | failed settled =>
      unfold settled? at settled
      split at settled
      · cases settled
        cases processing
      · cases settled

end Job

/-! ### The store -/

structure StoredJob where
  job : Job
  version : Nat

structure JobStore where
  jobs : String → Option StoredJob
  next : Nat

namespace JobStore

variable {s : JobStore} {name other target : String} {copy : StoredJob} {job : Option Job}

def put (s : JobStore) (name : String) (job : Option Job) : JobStore where
  jobs := Function.update s.jobs name (job.map (⟨·, s.next⟩))
  next := s.next + 1

/-- The job of that name processes on the cluster. -/
def Processes (s : JobStore) (name target : String) : Prop :=
  ∃ stored, s.jobs name = some stored ∧ stored.job.phase? = some .processing ∧
    stored.job.spec.instanceName = target

/-- No cluster has two jobs that process on it. -/
def AtMostOne (s : JobStore) : Prop :=
  ∀ target name other, s.Processes name target → s.Processes other target → name = other

def Keyed (s : JobStore) : Prop :=
  ∀ name stored, s.jobs name = some stored → stored.job.name = name ∧ stored.version < s.next

def Seen (s : JobStore) (copy : StoredJob) : Prop :=
  copy.version < s.next ∧
    ∀ stored, s.jobs copy.job.name = some stored → stored.version = copy.version → stored = copy

/-- What users and finalizers may make of what is stored under a name: a new job has no status yet, and of one that is
there they change no more than the metadata. -/
inductive Edits (s : JobStore) (name : String) : Option Job → Prop where
  | made (absent : s.jobs name = none) {j : Job} (named : j.name = name) (fresh : j.status = none) :
      Edits s name (some j)
  | changed {stored : StoredJob} (there : s.jobs name = some stored) {metadata : Meta}
      (named : metadata.displayName = name) : Edits s name (some { stored.job with metadata })
  | removed : Edits s name none

@[simp] theorem put_same : (s.put name job).jobs name = job.map (⟨·, s.next⟩) :=
  Function.update_self ..

theorem put_other (differ : other ≠ name) : (s.put name job).jobs other = s.jobs other :=
  Function.update_of_ne differ ..

theorem processes_put (processes : (s.put name job).Processes other target) :
    (other = name ∧ ∃ j, job = some j ∧ j.phase? = some .processing ∧ j.spec.instanceName = target) ∨
      (other ≠ name ∧ s.Processes other target) := by
  obtain ⟨stored, there, processing, same⟩ := processes
  by_cases here : other = name
  · subst here
    rw [put_same] at there
    obtain ⟨j, rfl, rfl⟩ := Option.map_eq_some_iff.mp there
    exact .inl ⟨rfl, j, rfl, processing, same⟩
  · rw [put_other here] at there
    exact .inr ⟨here, stored, there, processing, same⟩

theorem Keyed.put (keyed : s.Keyed) (named : ∀ j, job = some j → j.name = name) : (s.put name job).Keyed := by
  intro other stored there
  by_cases here : other = name
  · subst here
    rw [put_same] at there
    obtain ⟨j, rfl, rfl⟩ := Option.map_eq_some_iff.mp there
    exact ⟨named j rfl, Nat.lt_succ_self _⟩
  · rw [put_other here] at there
    obtain ⟨same, early⟩ := keyed other stored there
    exact ⟨same, Nat.lt_succ_of_lt early⟩

theorem Keyed.seen (keyed : s.Keyed) (there : s.jobs name = some copy) : s.Seen copy := by
  obtain ⟨rfl, early⟩ := keyed name copy there
  refine ⟨early, fun stored same _ => ?_⟩
  rw [there] at same
  exact (Option.some.inj same).symm

theorem Seen.ne_of_put (seen : s.Seen copy) (current : (s.put name job).jobs copy.job.name = some copy) :
    copy.job.name ≠ name := by
  rintro rfl
  rw [put_same] at current
  obtain ⟨j, -, same⟩ := Option.map_eq_some_iff.mp current
  have version : s.next = copy.version := congrArg StoredJob.version same
  exact absurd seen.1 (by omega)

theorem Seen.put (seen : s.Seen copy) : (s.put name job).Seen copy := by
  refine ⟨Nat.lt_succ_of_lt seen.1, fun stored there same => ?_⟩
  by_cases here : copy.job.name = name
  · rw [here, put_same] at there
    obtain ⟨j, -, rfl⟩ := Option.map_eq_some_iff.mp there
    exact absurd seen.1 (by rw [← same]; exact Nat.lt_irrefl _)
  · rw [put_other here] at there
    exact seen.2 stored there same

theorem Edits.named (edits : s.Edits name job) : ∀ j, job = some j → j.name = name := by
  rintro j rfl
  cases edits with
  | made _ named _ => exact named
  | changed _ named => exact named

theorem Edits.processes (edits : s.Edits name job) (processes : (s.put name job).Processes other target) :
    s.Processes other target := by
  rcases processes_put processes with ⟨rfl, j, rfl, processing, same⟩ | ⟨-, before⟩
  · cases edits with
    | made _ _ fresh =>
        rw [Job.phase?, fresh] at processing
        cases processing
    | changed there _ => exact ⟨_, there, processing, same⟩
  · exact before

theorem AtMostOne.mono {s' : JobStore} (single : s.AtMostOne)
    (fewer : ∀ name target, s'.Processes name target → s.Processes name target) : s'.AtMostOne :=
  fun target name other here there => single target name other (fewer _ _ here) (fewer _ _ there)

end JobStore

/-! ### Passes under way -/

/-- A pass under way: the copy of the job that it is about, what it has heard and what is left of it. -/
structure Flight where
  copy : StoredJob
  log : List Exchange
  rest : Dialogue (Except Failure Action)

/-- The jobs of a namespace and the passes over them. -/
structure Board where
  store : JobStore
  flights : List Flight

namespace Flight

def ofCopy (pace : JobPace) (copy : StoredJob) : Flight :=
  ⟨copy, [], (copy.job.pass pace).run⟩

def heard (f : Flight) {c : Call} (next : c.Reply → Dialogue (Except Failure Action)) (reply : c.Reply) : Flight :=
  { f with log := f.log ++ [⟨c, reply⟩], rest := next reply }

def Cleared (ns : String) (s : JobStore) (f : Flight) : Prop :=
  s.jobs f.copy.job.name = some f.copy ∧ f.copy.job.phase? ≠ some .processing ∧
    (∃ jobs, ⟨.listJobs ns, .ok jobs⟩ ∈ f.log ∧ f.copy.job.rival? jobs = none) ∧ ∃ c next, f.rest = .ask c next

end Flight

namespace JobStore

/-- How the store replies to a pass over a copy, and what becomes of it. A listing shows the jobs as they are, and a
status is recorded only for a job that is still at the version of the copy; such a write may fail all the same, even
after it was done. About everything else nothing is assumed. -/
inductive Replies (ns : String) (copy : StoredJob) (s : JobStore) : Exchange → JobStore → Prop where
  | listed {jobs : List Job} (shows : ∀ j, j ∈ jobs ↔ ∃ name stored, s.jobs name = some stored ∧ stored.job = j) :
      Replies ns copy s ⟨.listJobs ns, .ok jobs⟩ s
  | recorded {name : String} {status : JobStatus} {stored : StoredJob} (there : s.jobs name = some stored)
      (unchanged : stored.version = copy.version) (reply : Except ApiError Unit) :
      Replies ns copy s ⟨.write ns (.jobStatus name status), reply⟩
        (s.put name (some { stored.job with status := some status }))
  | refused {name : String} {status : JobStatus} (e : ApiError) :
      Replies ns copy s ⟨.write ns (.jobStatus name status), .error e⟩ s
  | other {x : Exchange} (unlisted : ∀ jobs, x ≠ ⟨.listJobs ns, .ok jobs⟩)
      (unwritten : ∀ name status, x.call ≠ .write ns (.jobStatus name status)) : Replies ns copy s x s

end JobStore

namespace Board

variable {ns : String} {pace : JobPace} {b b' : Board}

/-- One step of all that goes on: a pass begins, makes a call or ends, or a job is edited. -/
inductive Step (ns : String) (pace : JobPace) : Board → Board → Prop where
  | begins {s : JobStore} {flights : List Flight} {copy : StoredJob} (seen : s.Seen copy)
      (place : copy.job.ns? = some ns) : Step ns pace ⟨s, flights⟩ ⟨s, .ofCopy pace copy :: flights⟩
  | calls {s s' : JobStore} {before after : List Flight} {f : Flight} {c : Call}
      {next : c.Reply → Dialogue (Except Failure Action)} (asks : f.rest = .ask c next) {reply : c.Reply}
      (replies : s.Replies ns f.copy ⟨c, reply⟩ s') :
      Step ns pace ⟨s, before ++ f :: after⟩ ⟨s', before ++ f.heard next reply :: after⟩
  | ends {s : JobStore} {before after : List Flight} {f : Flight} :
      Step ns pace ⟨s, before ++ f :: after⟩ ⟨s, before ++ after⟩
  | edits {s : JobStore} {flights : List Flight} {name : String} {job : Option Job} (edits : s.Edits name job) :
      Step ns pace ⟨s, flights⟩ ⟨s.put name job, flights⟩

def Races (ns : String) (b b' : Board) : Prop :=
  ∃ name target f, b'.store.Processes name target ∧ ¬ b.store.Processes name target ∧
    f ∈ b.flights ∧ f.Cleared ns b.store ∧ f.copy.job.name ≠ name ∧ f.copy.job.spec.instanceName = target

def CalmStep (ns : String) (pace : JobPace) (b b' : Board) : Prop :=
  Step ns pace b b' ∧ ¬ Races ns b b'

def Fresh (b : Board) : Prop :=
  b.store.Keyed ∧ b.flights = [] ∧ ∀ name stored, b.store.jobs name = some stored → stored.job.status = none

/-- What holds as long as there are no races. -/
structure Sound (ns : String) (pace : JobPace) (b : Board) : Prop where
  keyed : b.store.Keyed
  flown : ∀ f ∈ b.flights, (f.copy.job.pass pace).run.Comes f.log f.rest
  seen : ∀ f ∈ b.flights, b.store.Seen f.copy
  placed : ∀ f ∈ b.flights, f.copy.job.ns? = some ns
  single : b.store.AtMostOne
  free : ∀ f ∈ b.flights, f.Cleared ns b.store → ∀ name, ¬ b.store.Processes name f.copy.job.spec.instanceName

theorem Fresh.sound (fresh : b.Fresh) : b.Sound ns pace := by
  obtain ⟨keyed, grounded, idle⟩ := fresh
  have none : ∀ f, f ∉ b.flights := fun f => by
    rw [grounded]
    exact List.not_mem_nil
  refine ⟨keyed, fun f flies => absurd flies (none f), fun f flies => absurd flies (none f),
    fun f flies => absurd flies (none f), fun target name other here _ => ?_, fun f flies => absurd flies (none f)⟩
  obtain ⟨stored, there, processing, -⟩ := here
  rw [Job.phase?, idle name stored there] at processing
  cases processing

theorem Sound.put {s : JobStore} {flights : List Flight} {name : String} {job : Option Job}
    (sound : Sound ns pace ⟨s, flights⟩) (named : ∀ j, job = some j → j.name = name)
    (fewer : ∀ other target, (s.put name job).Processes other target → s.Processes other target) :
    Sound ns pace ⟨s.put name job, flights⟩ where
  keyed := sound.keyed.put named
  flown := sound.flown
  seen f flies := (sound.seen f flies).put
  placed := sound.placed
  single := sound.single.mono fewer
  free f flies cleared other processes := by
    obtain ⟨current, idle, found, going⟩ := cleared
    rw [JobStore.put_other ((sound.seen f flies).ne_of_put current)] at current
    exact sound.free f flies ⟨current, idle, found, going⟩ other (fewer _ _ processes)

theorem Sound.claims {s : JobStore} {flights : List Flight} {f : Flight} {status : JobStatus}
    (sound : Sound ns pace ⟨s, flights⟩) (flies : f ∈ flights) (cleared : f.Cleared ns s)
    (processing : status.phase = some .processing) {store : JobStore}
    (claimed : store = s.put f.copy.job.name (some { f.copy.job with status := some status }))
    {later : List Flight} (calm : ¬ Races ns ⟨s, flights⟩ ⟨store, later⟩) : Sound ns pace ⟨store, flights⟩ := by
  subst claimed
  have alone := sound.free f flies cleared
  have claims : ∀ {other target}, (s.put f.copy.job.name (some { f.copy.job with status := some status })).Processes
      other target → (other = f.copy.job.name ∧ f.copy.job.spec.instanceName = target) ∨
        (other ≠ f.copy.job.name ∧ s.Processes other target) := by
    intro other target processes
    rcases JobStore.processes_put processes with ⟨here, j, same, -, on⟩ | before
    · cases same
      exact .inl ⟨here, on⟩
    · exact .inr before
  refine ⟨sound.keyed.put ?_, sound.flown, fun g g_flies => (sound.seen g g_flies).put, sound.placed, ?_, ?_⟩
  · intro j same
    cases same
    rfl
  · intro target name other here there
    rcases claims here with ⟨rfl, rfl⟩ | ⟨-, before⟩
    · rcases claims there with ⟨rfl, -⟩ | ⟨-, before⟩
      · rfl
      · exact absurd before (alone other)
    · rcases claims there with ⟨rfl, rfl⟩ | ⟨-, earlier⟩
      · exact absurd before (alone name)
      · exact sound.single target name other before earlier
  · intro g g_flies ⟨current, idle, found, going⟩ name processes
    have differ := (sound.seen g g_flies).ne_of_put current
    rw [JobStore.put_other differ] at current
    have g_cleared : g.Cleared ns s := ⟨current, idle, found, going⟩
    rcases claims processes with ⟨rfl, same⟩ | ⟨-, before⟩
    · refine calm ⟨f.copy.job.name, _, g, ?_, alone _, g_flies, g_cleared, differ, same.symm⟩
      exact ⟨_, JobStore.put_same, processing, rfl⟩
    · exact sound.free g g_flies g_cleared name before

theorem Sound.heard {s : JobStore} {before after : List Flight} {f : Flight} {c : Call}
    {next : c.Reply → Dialogue (Except Failure Action)} {reply : c.Reply}
    (sound : Sound ns pace ⟨s, before ++ f :: after⟩) (asks : f.rest = .ask c next)
    (clears : (f.heard next reply).Cleared ns s → f.Cleared ns s ∨
      ∀ name, ¬ s.Processes name f.copy.job.spec.instanceName) :
    Sound ns pace ⟨s, before ++ f.heard next reply :: after⟩ := by
  have flies : f ∈ before ++ f :: after := List.mem_append_right _ List.mem_cons_self
  have each : ∀ {P : Flight → Prop}, (∀ g ∈ before ++ f :: after, P g) → P (f.heard next reply) →
      ∀ g ∈ before ++ f.heard next reply :: after, P g := by
    intro P all this g member
    rcases List.mem_append.mp member with there | there
    · exact all g (List.mem_append_left _ there)
    · rcases List.mem_cons.mp there with rfl | there
      · exact this
      · exact all g (List.mem_append_right _ (List.mem_cons_of_mem _ there))
  refine ⟨sound.keyed, each sound.flown ?_, each sound.seen (sound.seen f flies), each sound.placed
    (sound.placed f flies), sound.single, each sound.free fun cleared => ?_⟩
  · have comes := sound.flown f flies
    rw [asks] at comes
    exact comes.snoc reply
  · rcases clears cleared with earlier | free
    · exact sound.free f flies earlier
    · exact free

theorem Sound.free_of_listing {s : JobStore} {flights : List Flight} {f : Flight} {jobs : List Job}
    (sound : Sound ns pace ⟨s, flights⟩) (current : s.jobs f.copy.job.name = some f.copy)
    (idle : f.copy.job.phase? ≠ some .processing)
    (shows : ∀ j, j ∈ jobs ↔ ∃ name stored, s.jobs name = some stored ∧ stored.job = j)
    (free : f.copy.job.rival? jobs = none) : ∀ name, ¬ s.Processes name f.copy.job.spec.instanceName := by
  rintro name ⟨stored, there, processing, same⟩
  have listed : stored.job ∈ jobs := (shows stored.job).mpr ⟨name, stored, there, rfl⟩
  have own : stored.job.name = f.copy.job.name := Job.rival?_none free listed same processing
  obtain ⟨named, -⟩ := sound.keyed name stored there
  rw [← named, own, current] at there
  cases there
  exact idle processing

theorem Sound.cleared {s : JobStore} {flights : List Flight} {f : Flight} {status : JobStatus} {c : Call}
    {next : c.Reply → Dialogue (Except Failure Action)} (sound : Sound ns pace ⟨s, flights⟩) (flies : f ∈ flights)
    (asks : f.rest = .ask c next) (current : s.jobs f.copy.job.name = some f.copy)
    (records : f.copy.job.Records f.log status) (processing : status.phase = some .processing) :
    f.copy.job.phase? = some .processing ∨ f.Cleared ns s := by
  rcases records.claims processing with already | ⟨place, _, jobs, placed, listed, -, starts⟩
  · exact .inl already
  · have same : place = ns := by
      unfold Job.placed at placed
      rw [sound.placed f flies] at placed
      exact (Except.ok.inj placed).symm
    subst same
    obtain ⟨unset, -, free, -⟩ := Job.precheck_start starts
    have idle : f.copy.job.phase? ≠ some .processing := by
      rw [unset]
      nofun
    exact .inr ⟨current, idle, ⟨jobs, listed, free⟩, c, next, asks⟩

theorem Sound.calls {s s' : JobStore} {before after : List Flight} {f : Flight} {c : Call}
    {next : c.Reply → Dialogue (Except Failure Action)} {reply : c.Reply}
    (sound : Sound ns pace ⟨s, before ++ f :: after⟩) (asks : f.rest = .ask c next)
    (replies : s.Replies ns f.copy ⟨c, reply⟩ s')
    (calm : ¬ Races ns ⟨s, before ++ f :: after⟩ ⟨s', before ++ f.heard next reply :: after⟩) :
    Sound ns pace ⟨s', before ++ f.heard next reply :: after⟩ := by
  have flies : f ∈ before ++ f :: after := List.mem_append_right _ List.mem_cons_self
  -- What the pass had found before is still what it has found, unless it was shown the jobs just now.
  have earlier : ∀ {x : Exchange}, (∀ jobs, x ≠ ⟨.listJobs ns, .ok jobs⟩) → x = ⟨c, reply⟩ →
      (f.heard next reply).Cleared ns s → f.Cleared ns s := by
    rintro x unlisted rfl ⟨current, idle, ⟨jobs, member, free⟩, -⟩
    refine ⟨current, idle, ⟨jobs, ?_, free⟩, c, next, asks⟩
    rcases List.mem_append.mp member with there | here
    · exact there
    · exact absurd (List.mem_singleton.mp here).symm (unlisted jobs)
  generalize exchanged : (⟨c, reply⟩ : Exchange) = x at replies
  cases replies with
  | listed shows =>
      cases exchanged
      refine sound.heard asks fun cleared => ?_
      obtain ⟨current, idle, ⟨jobs, member, free⟩, -⟩ := cleared
      rcases List.mem_append.mp member with there | here
      · exact .inl ⟨current, idle, ⟨jobs, there, free⟩, _, next, asks⟩
      · cases List.mem_singleton.mp here
        exact .inr (sound.free_of_listing current idle shows free)
  | refused e =>
      cases exchanged
      refine sound.heard asks fun cleared => .inl (earlier ?_ rfl cleared)
      intro jobs same
      cases congrArg Exchange.call same
  | other unlisted _ =>
      subst exchanged
      exact sound.heard asks fun cleared => .inl (earlier unlisted rfl cleared)
  | recorded there unchanged answer =>
      cases exchanged
      next name status stored =>
      have comes := sound.flown f flies
      rw [asks] at comes
      obtain ⟨rfl, -, records⟩ := (Job.pass_heeds f.copy.job pace).of_comes comes
      cases (sound.seen f flies).2 stored there unchanged
      have changed : Sound ns pace ⟨s.put f.copy.job.name (some { f.copy.job with status := some status }),
          before ++ f :: after⟩ := by
        by_cases claims : status.phase = some .processing ∧ f.copy.job.phase? ≠ some .processing
        · obtain ⟨processing, idle⟩ := claims
          rcases sound.cleared flies asks there records processing with already | cleared
          · exact absurd already idle
          · exact sound.claims flies cleared processing rfl calm
        · refine sound.put (fun j same => by cases same; rfl) fun other target processes => ?_
          rcases JobStore.processes_put processes with ⟨rfl, j, same, processing, on⟩ | ⟨-, before⟩
          · cases same
            have already : f.copy.job.phase? = some .processing := by
              by_contra idle
              exact claims ⟨processing, idle⟩
            exact ⟨f.copy, there, already, on⟩
          · exact before
      refine changed.heard asks fun cleared => ?_
      exact absurd rfl ((sound.seen f flies).ne_of_put cleared.1)

theorem Sound.step (sound : b.Sound ns pace) (step : CalmStep ns pace b b') : b'.Sound ns pace := by
  obtain ⟨step, calm⟩ := step
  cases step with
  | begins seen place =>
      refine ⟨sound.keyed, ?_, ?_, ?_, sound.single, ?_⟩
      · exact List.forall_mem_cons.mpr ⟨.here _, sound.flown⟩
      · exact List.forall_mem_cons.mpr ⟨seen, sound.seen⟩
      · exact List.forall_mem_cons.mpr ⟨place, sound.placed⟩
      · refine List.forall_mem_cons.mpr ⟨fun cleared => ?_, sound.free⟩
        obtain ⟨-, -, ⟨jobs, member, -⟩, -⟩ := cleared
        cases member
  | calls asks replies => exact sound.calls asks replies calm
  | ends =>
      have kept : ∀ {g : Flight} {before after : List Flight} {f : Flight}, g ∈ before ++ after →
          g ∈ before ++ f :: after := by
        intro g before after f member
        rcases List.mem_append.mp member with there | there
        · exact List.mem_append_left _ there
        · exact List.mem_append_right _ (List.mem_cons_of_mem _ there)
      exact ⟨sound.keyed, fun g flies => sound.flown g (kept flies), fun g flies => sound.seen g (kept flies),
        fun g flies => sound.placed g (kept flies), sound.single, fun g flies => sound.free g (kept flies)⟩
  | edits edits => exact sound.put edits.named fun _ _ processes => edits.processes processes

/-! ### Two passes over the sample jobs -/

theorem Step.calm {s : JobStore} {flights later : List Flight} (step : Step ns pace ⟨s, flights⟩ ⟨s, later⟩) :
    CalmStep ns pace ⟨s, flights⟩ ⟨s, later⟩ := by
  refine ⟨step, ?_⟩
  rintro ⟨name, target, _, processes, idle, -⟩
  exact idle processes

theorem Step.calls_head {s s' : JobStore} {flights : List Flight} {f : Flight} {c : Call}
    {next : c.Reply → Dialogue (Except Failure Action)} (asks : f.rest = .ask c next) {reply : c.Reply}
    (replies : s.Replies ns f.copy ⟨c, reply⟩ s') :
    Step ns pace ⟨s, f :: flights⟩ ⟨s', f.heard next reply :: flights⟩ :=
  @Step.calls ns pace s s' [] flights f c next asks reply replies

theorem goes {s : JobStore} {flights : List Flight} {f : Flight} {log : List Exchange}
    {d : Dialogue (Except Failure Action)} (comes : f.rest.Comes log d)
    (replies : ∀ x ∈ log, s.Replies ns f.copy x s) :
    Relation.ReflTransGen (CalmStep ns pace) ⟨s, f :: flights⟩ ⟨s, ⟨f.copy, f.log ++ log, d⟩ :: flights⟩ := by
  obtain ⟨copy, heard, rest⟩ := f
  dsimp only at comes replies ⊢
  induction comes generalizing heard with
  | here d => rw [List.append_nil]
  | @ask c next log d reply _ ih =>
      obtain ⟨now, later⟩ := List.forall_mem_cons.mp replies
      have goes := ih (heard ++ [⟨c, reply⟩]) later
      rw [List.append_assoc] at goes
      have step : Step ns pace ⟨s, ⟨copy, heard, .ask c next⟩ :: flights⟩ _ := .calls_head rfl now
      exact .head step.calm goes

theorem replies_of_keeps {s : JobStore} {copy : StoredJob} {x : Exchange} (keeps : x.call.Keeps) :
    s.Replies ns copy x s := by
  refine .other ?_ ?_
  · rintro jobs rfl
    exact keeps
  · intro name status same
    rw [same] at keeps
    exact keeps

theorem goes_to_write {s : JobStore} {flights : List Flight} {f : Flight} {log later : List Exchange}
    {r : Except Failure Action} {name : String} {status : JobStatus} {reply : Except ApiError Unit}
    (yields : f.rest.Yields (log ++ ⟨.write ns (.jobStatus name status), reply⟩ :: later) r)
    (replies : ∀ x ∈ log, s.Replies ns f.copy x s) : ∃ next,
    Relation.ReflTransGen (CalmStep ns pace) ⟨s, f :: flights⟩
      ⟨s, ⟨f.copy, f.log ++ log, .ask (.write ns (.jobStatus name status)) next⟩ :: flights⟩ := by
  obtain ⟨d, comes, follows⟩ := Dialogue.yields_append yields
  cases follows with
  | ask reply _ => exact ⟨_, goes comes replies⟩

/-! ### Two jobs for one cluster -/

def sampleStore : JobStore where
  jobs name :=
    if name = "first" then some ⟨sampleJob "first" none, 0⟩
    else if name = "second" then some ⟨sampleJob "second" none, 1⟩
    else none
  next := 2

def sampleListing : List Job := [sampleJob "first" none, sampleJob "second" none]

theorem sampleStore_keyed : sampleStore.Keyed := by
  intro name stored there
  unfold sampleStore at there
  dsimp only at there
  split at there
  · next same =>
    cases there
    exact ⟨same.symm, by decide⟩
  · split at there
    · next same =>
      cases there
      exact ⟨same.symm, by decide⟩
    · cases there

theorem sampleBoard_fresh : Fresh ⟨sampleStore, []⟩ := by
  refine ⟨sampleStore_keyed, rfl, fun name stored there => ?_⟩
  unfold sampleStore at there
  dsimp only at there
  split at there
  · cases there
    rfl
  · split at there
    · cases there
      rfl
    · cases there

theorem sampleListing_shows (j : Job) : j ∈ sampleListing ↔
    ∃ name stored, sampleStore.jobs name = some stored ∧ stored.job = j := by
  constructor
  · intro member
    rcases List.mem_cons.mp member with rfl | member
    · exact ⟨"first", ⟨sampleJob "first" none, 0⟩, rfl, rfl⟩
    · cases List.mem_singleton.mp member
      exact ⟨"second", ⟨sampleJob "second" none, 1⟩, rfl, rfl⟩
  · rintro ⟨name, stored, there, rfl⟩
    unfold sampleStore at there
    dsimp only at there
    split at there
    · cases there
      exact List.mem_cons_self
    · split at there
      · cases there
        exact List.mem_cons_of_mem _ List.mem_cons_self
      · cases there

theorem replies_looking {name : String} {copy : StoredJob} :
    ∀ x ∈ (sampleJob name none).looksAround "default" runningCluster sampleListing,
      sampleStore.Replies "default" copy x sampleStore := by
  intro x member
  rcases List.mem_cons.mp member with rfl | member
  · exact replies_of_keeps trivial
  · cases List.mem_singleton.mp member
    exact .listed sampleListing_shows

theorem first_claims (pace : JobPace) (flights : List Flight) : ∃ f f', f.copy.job.name = "first" ∧
    Relation.ReflTransGen (CalmStep "default" pace) ⟨sampleStore, flights⟩ ⟨sampleStore, f :: flights⟩ ∧
    Step "default" pace ⟨sampleStore, f :: flights⟩ ⟨sampleStore.put "first" (some (sampleJob "first"
      (some (JobStatus.initial.markProcessing (sampleTime 1))))), f' :: flights⟩ := by
  have there : sampleStore.jobs "first" = some ⟨sampleJob "first" none, 0⟩ := rfl
  have free : (sampleJob "first" none).rival? sampleListing = none := rfl
  obtain ⟨rest, r, -, ends⟩ := sampleJob_starts pace (sampleTime 1) free (.ok ())
  rw [← List.append_assoc] at ends
  have replies : ∀ x ∈ (sampleJob "first" none).looksAround "default" runningCluster sampleListing ++
      sampleStart (sampleTime 1), sampleStore.Replies "default" ⟨sampleJob "first" none, 0⟩ x sampleStore := by
    intro x member
    rcases List.mem_append.mp member with looks | starts
    · exact replies_looking x looks
    · exact replies_of_keeps (sampleStart_keeps _ x starts)
  have begins : Step "default" pace ⟨sampleStore, flights⟩
      ⟨sampleStore, .ofCopy pace ⟨sampleJob "first" none, 0⟩ :: flights⟩ := .begins (sampleStore_keyed.seen there) rfl
  obtain ⟨next, goes⟩ := goes_to_write (f := .ofCopy pace ⟨sampleJob "first" none, 0⟩) ends replies
  exact ⟨_, _, rfl, .head begins.calm goes, .calls_head rfl (.recorded there rfl (.ok ()))⟩

/-! ### One job at a time -/

/-- However passes over jobs are interleaved, no cluster has two jobs processing on it as long as no job is recorded as
processing while a pass over another one has found the same cluster free. -/
theorem at_most_one_processing_without_races {b₀ : Board} (fresh : b₀.Fresh)
    (run : Relation.ReflTransGen (CalmStep ns pace) b₀ b) : b.store.AtMostOne := by
  have sound : b.Sound ns pace := by
    induction run with
    | refl => exact fresh.sound
    | tail _ step ih => exact ih.step step
  exact sound.single

/-- A first job processes, with no other pass under way that has found its cluster free. -/
theorem one_claim_at_a_time : ∃ (ns : String) (pace : JobPace) (b₀ b : Board), b₀.Fresh ∧
    Relation.ReflTransGen (CalmStep ns pace) b₀ b ∧ b.store.Processes "first" "broker" ∧ b.store.AtMostOne := by
  obtain ⟨f, f', named, goes, claims⟩ := first_claims default []
  have calm : ¬ Races "default" ⟨sampleStore, [f]⟩ ⟨sampleStore.put "first" (some (sampleJob "first"
      (some (JobStatus.initial.markProcessing (sampleTime 1))))), [f']⟩ := by
    rintro ⟨name, target, g, processes, idle, flies, -, differ, -⟩
    cases List.mem_singleton.mp flies
    rcases JobStore.processes_put processes with ⟨same, -⟩ | ⟨-, before⟩
    · exact differ (named.trans same.symm)
    · exact idle before
  have run := goes.tail ⟨claims, calm⟩
  refine ⟨_, _, _, _, sampleBoard_fresh, run, ?_, at_most_one_processing_without_races sampleBoard_fresh run⟩
  exact ⟨_, JobStore.put_same, rfl, rfl⟩

/-- Two jobs process on one cluster when both passes list the jobs before either of them claims it. -/
theorem two_jobs_process_on_one_cluster : ¬ ∀ (ns : String) (pace : JobPace) (b₀ b : Board), b₀.Fresh →
    Relation.ReflTransGen (Step ns pace) b₀ b → b.store.AtMostOne := by
  intro single
  have there : sampleStore.jobs "second" = some ⟨sampleJob "second" none, 1⟩ := rfl
  have free : (sampleJob "second" none).rival? sampleListing = none := rfl
  obtain ⟨rest, r, status, processing, -, ends⟩ := sampleJob_adopts default (sampleTime 2) free (.ok ())
  have begins : Step "default" default ⟨sampleStore, []⟩
      ⟨sampleStore, [.ofCopy default ⟨sampleJob "second" none, 1⟩]⟩ := .begins (sampleStore_keyed.seen there) rfl
  have unlike : "second" ≠ "first" := by decide
  -- The second pass lists the jobs and waits, the first one claims the cluster and ends, and the second one goes on.
  obtain ⟨d, looks, follows⟩ := Dialogue.yields_append ends
  let waiting : Flight :=
    ⟨⟨sampleJob "second" none, 1⟩, (sampleJob "second" none).looksAround "default" runningCluster sampleListing, d⟩
  have lists : Relation.ReflTransGen (CalmStep "default" default)
      ⟨sampleStore, [.ofCopy default ⟨sampleJob "second" none, 1⟩]⟩ ⟨sampleStore, [waiting]⟩ :=
    goes looks replies_looking
  obtain ⟨f, f', -, first, claims⟩ := first_claims default [waiting]
  let claimed : JobStore := sampleStore.put "first" (some (sampleJob "first"
    (some (JobStatus.initial.markProcessing (sampleTime 1)))))
  have ended : Step "default" default ⟨claimed, [f', waiting]⟩ ⟨claimed, [waiting]⟩ :=
    @Step.ends "default" default claimed [] [waiting] f'
  obtain ⟨next, second⟩ : ∃ next, Relation.ReflTransGen (CalmStep "default" default) ⟨claimed, [waiting]⟩
      ⟨claimed, [⟨waiting.copy, waiting.log ++ sampleTakeover (sampleTime 2),
        .ask (.write "default" (.jobStatus "second" status)) next⟩]⟩ :=
    goes_to_write follows fun x member => replies_of_keeps (sampleTakeover_keeps _ x member)
  have there : claimed.jobs "second" = some waiting.copy := JobStore.put_other unlike
  have records : claimed.Replies "default" waiting.copy ⟨.write "default" (.jobStatus "second" status), .ok ()⟩
      (claimed.put "second" (some (sampleJob "second" (some status)))) := .recorded there rfl (.ok ())
  have calmly : Relation.ReflTransGen (CalmStep "default" default) ≤ Relation.ReflTransGen (Step "default" default) :=
    Relation.ReflTransGen.mono fun _ _ step => step.1
  have run := (((((calmly _ _ lists).trans (calmly _ _ first)).tail claims).tail ended).trans (calmly _ _ second)).tail
    (.calls_head rfl records)
  let both : JobStore := claimed.put "second" (some (sampleJob "second" (some status)))
  have one : both.Processes "first" "broker" :=
    ⟨_, (JobStore.put_other unlike.symm).trans JobStore.put_same, rfl, rfl⟩
  have other : both.Processes "second" "broker" := ⟨_, JobStore.put_same, processing, rfl⟩
  exact unlike.symm (single _ _ _ _ sampleBoard_fresh (run.head begins) "broker" "first" "second" one other)

end Board

end BrokerFleet
