import BrokerFleet.Schedule

/-!
How failures are handled that stand inside others. A pass over a job puts its failure inside another one that says
whether the job was being driven or stopped, and that makes no difference to the class of it. When the next attempt to
stop a job is due is found only behind failures to clean up.
-/

namespace BrokerFleet.Failure

/-- What a pass over a job puts around its failure. -/
inductive Wrapper where
  | applying
  | cleaningUp
  deriving DecidableEq, Repr, Inhabited

def Wrapper.around : Wrapper → Failure → Failure
  | .applying => .applying
  | .cleaningUp => .cleaningUp

def inside (e : Failure) (ws : List Wrapper) : Failure :=
  ws.foldr Wrapper.around e

def IsWrapped : Failure → Prop
  | .applying _ | .cleaningUp _ => True
  | _ => False

variable {e : Failure} {ws : List Wrapper} {pace : Pace}

theorem exists_inside (f : Failure) : ∃ (e : Failure) (ws : List Wrapper), ¬ e.IsWrapped ∧ f = e.inside ws := by
  induction f with
  | applying cause ih =>
      obtain ⟨e, ws, bare, rfl⟩ := ih
      exact ⟨e, .applying :: ws, bare, rfl⟩
  | cleaningUp cause ih =>
      obtain ⟨e, ws, bare, rfl⟩ := ih
      exact ⟨e, .cleaningUp :: ws, bare, rfl⟩
  | access | object | management | noTarget | cannotRebalance | concurrentJob | threshold | noCoordinator
  | stopDeferred | addingFinalizer | removingFinalizer | unnamedObject | badFinalizer => exact ⟨_, [], id, rfl⟩

theorem classify_inside (e : Failure) (ws : List Wrapper) : (e.inside ws).classify = e.classify := by
  induction ws with
  | nil => rfl
  | cons w ws ih =>
      cases w with
      | applying => exact ih
      | cleaningUp => exact ih

theorem stopRetryIn?_of_bare (bare : ¬ e.IsWrapped) {d : Span} (due : e.stopRetryIn? = some d) :
    ∃ n, e = .stopDeferred n d := by
  cases e with
  | stopDeferred n retryIn =>
      cases due
      exact ⟨n, rfl⟩
  | cleaningUp cause => exact absurd trivial bare
  | applying | access | object | management | noTarget | cannotRebalance | concurrentJob | threshold | noCoordinator
  | addingFinalizer | removingFinalizer | unnamedObject | badFinalizer => cases due

theorem stopRetryIn?_inside (e : Failure) (ws : List Wrapper) :
    (e.inside ws).stopRetryIn? = if ∀ w ∈ ws, w = .cleaningUp then e.stopRetryIn? else none := by
  induction ws with
  | nil => exact (if_pos (List.forall_mem_nil _)).symm
  | cons w ws ih =>
      cases w with
      | applying =>
          have mixed : ¬ ∀ w ∈ Wrapper.applying :: ws, w = .cleaningUp := fun all => nomatch all _ List.mem_cons_self
          exact (if_neg mixed).symm
      | cleaningUp =>
          have rest : (∀ w ∈ Wrapper.cleaningUp :: ws, w = .cleaningUp) ↔ ∀ w ∈ ws, w = .cleaningUp := by
            rw [List.forall_mem_cons]
            exact and_iff_right rfl
          simp only [rest]
          exact ih

theorem afterFailure_inside (pace : Pace) (e : Failure) (ws : List Wrapper) :
    pace.afterFailure (e.inside ws) = pace.actionFor e.classify := by
  rw [Pace.afterFailure, classify_inside]

theorem afterJobFailure_of_due {d : Span} (due : e.stopRetryIn? = some d) : pace.afterJobFailure e = .requeue d := by
  rw [Pace.afterJobFailure, due]

theorem afterJobFailure_of_none (silent : e.stopRetryIn? = none) : pace.afterJobFailure e = pace.afterFailure e := by
  rw [Pace.afterJobFailure, silent]

/-- A failure is handled as what stands innermost in it. It has the class of that, as a failure of the management API has
wherever it comes from; by the class it is tried again soon, at the steady pace or not at all. Only an attempt to stop a
job that is not due yet, behind nothing but failures to clean up, is waited for as long as it says. -/
theorem handled_as_innermost (pace : Pace) {e : Failure} (bare : ¬ e.IsWrapped) (ws : List Wrapper) :
    (e.inside ws).classify = e.classify ∧
    (∀ m : ManagementFailure, ((management m).inside ws).classify = m.classify ∧
      ((access (.management m)).inside ws).classify = m.classify) ∧
    (e.classify = .transient → pace.afterFailure (e.inside ws) = .requeue pace.retry) ∧
    (e.classify = .controlPlane → pace.afterFailure (e.inside ws) = .requeue pace.steady) ∧
    (e.classify ≠ .transient → e.classify ≠ .controlPlane → pace.afterFailure (e.inside ws) = .await) ∧
    (∀ n d, e = .stopDeferred n d → (∀ w ∈ ws, w = .cleaningUp) → pace.afterJobFailure (e.inside ws) = .requeue d) ∧
    (¬ ((∃ n d, e = .stopDeferred n d) ∧ ∀ w ∈ ws, w = .cleaningUp) →
      pace.afterJobFailure (e.inside ws) = pace.afterFailure (e.inside ws)) ∧
    ∀ f : Failure, ∃ (e : Failure) (ws : List Wrapper), ¬ e.IsWrapped ∧ f = e.inside ws := by
  have told := stopRetryIn?_inside e ws
  refine ⟨classify_inside e ws, fun m => ⟨classify_inside _ ws, classify_inside _ ws⟩, fun soon => ?_, fun refused => ?_,
    fun lasting accepted => ?_, fun n d same only => ?_, fun other => afterJobFailure_of_none ?_, exists_inside⟩
  · rw [afterFailure_inside, soon]
    rfl
  · rw [afterFailure_inside, refused]
    rfl
  · rw [afterFailure_inside]
    cases found : e.classify with
    | transient => exact absurd found lasting
    | controlPlane => exact absurd found accepted
    | precondition => rfl
    | unrecoverable => rfl
  · rw [if_pos only, same] at told
    rw [same]
    exact afterJobFailure_of_due told
  · rw [told]
    split
    · next only =>
      cases due : e.stopRetryIn? with
      | none => rfl
      | some d =>
          obtain ⟨n, same⟩ := stopRetryIn?_of_bare bare due
          exact absurd ⟨⟨n, d, same⟩, only⟩ other
    · rfl

def everyTwentySeconds : Pace :=
  ⟨.ofSeconds 20, .ofSeconds 1⟩

/-- An attempt to stop a job that is due in four seconds is waited for behind failures to clean up, and behind a failure
to drive the job it is one of those that pass soon. A status of failure is tried again at the steady pace, and a job
that has to give way to another one is not. -/
theorem wrapped_failures_handled :
    ¬ (stopDeferred 2 (.ofSeconds 4)).IsWrapped ∧
    everyTwentySeconds.afterJobFailure ((stopDeferred 2 (.ofSeconds 4)).inside [.cleaningUp, .cleaningUp]) =
      .requeue (.ofSeconds 4) ∧
    everyTwentySeconds.afterJobFailure ((stopDeferred 2 (.ofSeconds 4)).inside [.cleaningUp, .applying]) =
      .requeue (.ofSeconds 1) ∧
    everyTwentySeconds.afterFailure ((access (.management (.httpStatus "/" 500 ""))).inside [.applying]) =
      .requeue (.ofSeconds 20) ∧
    everyTwentySeconds.afterFailure ((concurrentJob "broker" "rb").inside [.applying]) = .await := by
  have bare : ¬ (stopDeferred 2 (.ofSeconds 4)).IsWrapped := id
  obtain ⟨-, -, -, -, -, waits, -, -⟩ := handled_as_innermost everyTwentySeconds bare [.cleaningUp, .cleaningUp]
  obtain ⟨-, -, soon, -, -, -, otherwise, -⟩ := handled_as_innermost everyTwentySeconds bare [.cleaningUp, .applying]
  obtain ⟨-, -, -, steadily, -, -, -, -⟩ := handled_as_innermost everyTwentySeconds
    (e := access (.management (.httpStatus "/" 500 ""))) id [.applying]
  obtain ⟨-, -, -, -, never, -, -, -⟩ := handled_as_innermost everyTwentySeconds
    (e := concurrentJob "broker" "rb") id [.applying]
  refine ⟨bare, waits 2 _ rfl (by decide), ?_, steadily rfl, never nofun nofun⟩
  rw [otherwise fun both => absurd both.2 (by decide)]
  exact soon rfl

end BrokerFleet.Failure
