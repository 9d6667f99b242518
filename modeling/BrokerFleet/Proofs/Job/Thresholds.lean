import BrokerFleet.Proofs.Job.Answering
import BrokerFleet.Proofs.Json.Forms
import BrokerFleet.Proofs.Json.Text

/-!
What becomes of the relative thresholds of a job. They are texts that have to be decimal literals: one that is not ends
the job, and a finite one reaches the broker as a number. What reads as infinite, or as no number at all, is a literal
too; it reaches the broker as `null`.
-/

namespace BrokerFleet

open Json Kubernetes Attempt Decimal

/-! ### Members that are there -/

namespace Json

variable {members : List (String × Option Json)} {name : String} {value : Json}

theorem names_present (members : List (String × Option Json)) :
    (present members).map (·.1) = ((members.map fun member => (member.1, member.2.isSome)).filter (·.2)).map (·.1) := by
  induction members with
  | nil => rfl
  | cons member rest ih =>
      obtain ⟨name, value⟩ := member
      cases value <;> simpa [present] using ih

theorem names_memberTexts (members : Members) : (memberTexts members).map (·.1) = members.map (·.1) := by
  simp [memberTexts]

theorem mem_memberTexts_present (there : (name, some value) ∈ members) :
    (name, value.compact.toList) ∈ memberTexts (present members) := by
  apply List.mem_map.mpr
  exact ⟨(name, value), List.mem_filterMap.mpr ⟨_, there, rfl⟩, rfl⟩

end Json

namespace RebalanceStrategy

def relativeThresholds (s : RebalanceStrategy) : List String :=
  s.relConnThreshold.toList ++ s.relSessThreshold.toList

def memberChoices (s : RebalanceStrategy) : List (String × Bool) :=
  [("conn_evict_rate", true), ("sess_evict_rate", true), ("wait_takeover", s.waitTakeover.isSome),
    ("wait_health_check", s.waitHealthCheck.isSome), ("abs_conn_threshold", s.absConnThreshold.isSome),
    ("rel_conn_threshold", s.relConnThreshold.isSome), ("abs_sess_threshold", s.absSessThreshold.isSome),
    ("rel_sess_threshold", s.relSessThreshold.isSome), ("nodes", true)]

def memberNames (s : RebalanceStrategy) : List String :=
  (s.memberChoices.filter (·.2)).map (·.1)

theorem memberNames_distinct (s : RebalanceStrategy) : s.memberNames.Nodup := by
  have all : (s.memberChoices.map (·.1)).Nodup := by
    show ["conn_evict_rate", "sess_evict_rate", "wait_takeover", "wait_health_check", "abs_conn_threshold",
      "rel_conn_threshold", "abs_sess_threshold", "rel_sess_threshold", "nodes"].Nodup
    decide
  exact all.sublist (List.filter_sublist.map _)

end RebalanceStrategy

namespace RebalanceOrder

variable {s : RebalanceStrategy} {nodes : List String} {order : RebalanceOrder} {e : LiteralError} {text : String}
  {threshold? : Option String} {reading : Reading}

theorem threshold_error (failed : threshold threshold? = .error e) : ∃ text ∈ threshold?, readLiteral text = .error e := by
  cases threshold? with
  | none => cases failed
  | some text =>
      refine ⟨text, rfl, ?_⟩
      cases read : readLiteral text with
      | error _ =>
          rw [threshold, read] at failed
          cases failed
          rfl
      | ok _ =>
          rw [threshold, read] at failed
          cases failed

theorem threshold_ok {found : Option Reading} (done : threshold threshold? = .ok found) :
    found.isSome = threshold?.isSome ∧
      ∀ text ∈ threshold?, ∃ reading, readLiteral text = .ok reading ∧ found = some reading := by
  cases threshold? with
  | none =>
      cases done
      exact ⟨rfl, nofun⟩
  | some text =>
      cases read : readLiteral text with
      | error _ =>
          rw [threshold, read] at done
          cases done
      | ok reading =>
          rw [threshold, read] at done
          cases done
          refine ⟨rfl, ?_⟩
          rintro _ ⟨⟩
          exact ⟨reading, read, rfl⟩

def readThresholds (s : RebalanceStrategy) : Except LiteralError (Option Reading × Option Reading) := do
  let conn ← threshold s.relConnThreshold
  let sess ← threshold s.relSessThreshold
  return (conn, sess)

theorem ofStrategy_eq (s : RebalanceStrategy) (nodes : List String) :
    ofStrategy s nodes = (readThresholds s).map fun read => ⟨s.connEvictRate, s.sessEvictRate, s.waitTakeover,
      s.waitHealthCheck, s.absConnThreshold, read.1, s.absSessThreshold, read.2, nodes⟩ := by
  unfold ofStrategy readThresholds
  cases threshold s.relConnThreshold with
  | error _ => rfl
  | ok _ => cases threshold s.relSessThreshold <;> rfl

theorem readThresholds_error (failed : readThresholds s = .error e) :
    ∃ text ∈ s.relativeThresholds, readLiteral text = .error e := by
  unfold readThresholds at failed
  cases conn : threshold s.relConnThreshold with
  | error _ =>
      rw [conn] at failed
      cases failed
      obtain ⟨text, set, unread⟩ := threshold_error conn
      exact ⟨text, List.mem_append_left _ (Option.mem_toList.mpr set), unread⟩
  | ok _ =>
      cases sess : threshold s.relSessThreshold with
      | error _ =>
          rw [conn, sess] at failed
          cases failed
          obtain ⟨text, set, unread⟩ := threshold_error sess
          exact ⟨text, List.mem_append_right _ (Option.mem_toList.mpr set), unread⟩
      | ok _ =>
          rw [conn, sess] at failed
          cases failed

theorem readThresholds_ok {read : Option Reading × Option Reading} (done : readThresholds s = .ok read) :
    threshold s.relConnThreshold = .ok read.1 ∧ threshold s.relSessThreshold = .ok read.2 := by
  unfold readThresholds at done
  cases conn : threshold s.relConnThreshold with
  | error _ =>
      rw [conn] at done
      cases done
  | ok _ =>
      cases sess : threshold s.relSessThreshold with
      | error _ =>
          rw [conn, sess] at done
          cases done
      | ok _ =>
          rw [conn, sess] at done
          cases done
          exact ⟨rfl, rfl⟩

theorem ofStrategy_eq_error : ofStrategy s nodes = .error e ↔ readThresholds s = .error e := by
  rw [ofStrategy_eq]
  cases readThresholds s <;> simp [Except.map]

theorem text_real (x : Binary64) : (Json.real x).compact.toList = (numberLayout.render x).toList := by
  simp [compact, textOnto]

theorem isNumeral_number : IsNumeral (number reading).compact.toList ↔ ∃ x, reading = .finite x := by
  constructor
  · intro numeral
    cases reading with
    | finite x => exact ⟨x, rfl⟩
    | infinite _ => exact absurd numeral not_isNumeral_null
    | notANumber => exact absurd numeral not_isNumeral_null
  · intro h
    obtain ⟨x, rfl⟩ := h
    rw [number, text_real]
    exact isNumeral_render numberLayout x

theorem number_cases (reading : Reading) :
    IsNumeral (number reading).compact.toList ∨ (number reading).compact.toList = "null".toList := by
  cases reading with
  | finite x => exact .inl (isNumeral_number.mpr ⟨x, rfl⟩)
  | infinite _ => exact .inr rfl
  | notANumber => exact .inr rfl

/-- How a relative threshold stands among the members of an order. It is a literal; if that is finite, it is there as a
number, and else as `null`. -/
def Carries (members : List (String × List Char)) (name text : String) : Prop :=
  ∃ value reading, (name, value) ∈ members ∧ readLiteral text = .ok reading ∧
    (IsNumeral value ↔ ∃ x, reading = .finite x) ∧ (IsNumeral value ∨ value = "null".toList)

theorem carries_of_threshold {members : List (String × Option Json)} {found : Option Reading} {name : String}
    (done : threshold threshold? = .ok found) (there : (name, found.map number) ∈ members) (set : threshold? = some text) :
    Carries (memberTexts (present members)) name text := by
  obtain ⟨reading, read, rfl⟩ := (threshold_ok done).2 text set
  exact ⟨_, reading, mem_memberTexts_present there, read, isNumeral_number, number_cases reading⟩

theorem body_of_strategy (ordered : ofStrategy s nodes = .ok order) : ∃ members,
    (∀ node, (ManagementRequest.startRebalance node order).body.toList = objectText members) ∧
    members.map (·.1) = s.memberNames ∧
    (∀ text, s.relConnThreshold = some text → Carries members "rel_conn_threshold" text) ∧
    (∀ text, s.relSessThreshold = some text → Carries members "rel_sess_threshold" text) := by
  rw [ofStrategy_eq] at ordered
  cases read : readThresholds s with
  | error e =>
      rw [read] at ordered
      cases ordered
  | ok found =>
      rw [read] at ordered
      cases ordered
      obtain ⟨conn, sess⟩ := readThresholds_ok read
      refine ⟨_, fun node => compact_object _, ?_, ?_, ?_⟩
      · rw [names_memberTexts]
        refine (names_present _).trans ?_
        simp only [List.map_cons, List.map_nil, Option.isSome_map, Option.isSome_some, (threshold_ok conn).1,
          (threshold_ok sess).1]
        rfl
      · intro text set
        exact carries_of_threshold conn (by simp) set
      · intro text set
        exact carries_of_threshold sess (by simp) set

end RebalanceOrder

/-! ### Passes -/

def Call.Follows (s : RebalanceStrategy) : Call → Prop
  | .send _ _ _ (.startRebalance _ order) => ∃ nodes, RebalanceOrder.ofStrategy s nodes = .ok order
  | _ => True

namespace Job

variable {j k : Job} {pace : JobPace} {c : Cluster} {client : ManagementClient} {now : Instant} {log : List Exchange}
  {r : Except Failure Action} {report : LoadReport} {e : LiteralError}

theorem begin_follows : (j.begin pace c client now).Heeds (fun _ c => c.Follows j.spec.strategy) log := by
  unfold begin Job.decided
  refine heeds_ofExcept_bind fun ⟨node, endpoint⟩ _ => heeds_bind ?_ fun first report _ => ?_
  · exact heeds_of_any (fun _ _ => id) (asks_mapFailure (ManagementClient.loadReport_asks trivial))
  have writes : ∀ before status, (j.writeStatus status).Heeds (fun _ c => c.Follows j.spec.strategy) before :=
    fun _ _ => heeds_of_any (fun _ _ => id) (writeStatus_asks fun _ => trivial)
  split
  · exact heeds_bind (writes _ _) fun _ _ _ => heeds_pure
  · refine heeds_ofExcept_bind fun order ordered => heeds_bind ?_ fun second _ _ => ?_
    · have made : RebalanceOrder.ofStrategy j.spec.strategy (c.statusNodes.map (·.name)) = .ok order :=
        mapError_eq_ok.mp ordered
      exact heeds_of_any (fun _ _ => id) (asks_mapFailure (ManagementClient.order_asks ⟨_, made⟩))
    · exact heeds_bind (writes _ _) fun _ _ _ => heeds_call_bind trivial fun _ => heeds_pure

theorem begin_unordered (ends : (j.begin pace c client now).Ends log r) (shown : Reports log report)
    (idle : report.rebalances = []) (refused : RebalanceOrder.readThresholds j.spec.strategy = .error e) :
    Unwritten log ∧ r = .error (.threshold e) := by
  have unordered : ∀ nodes, j.order nodes = .error (.threshold e) := by
    intro nodes
    rw [order, RebalanceOrder.ofStrategy_eq_error.mpr refused]
    rfl
  unfold begin Job.decided at ends
  rcases ends_ofExcept_bind.mp ends with ⟨_, -, rfl, -⟩ | ⟨⟨node, endpoint⟩, -, asks⟩
  · obtain ⟨_, _, _, _, _, member, -⟩ := shown
    cases member
  rcases ends_bind.mp asks with ⟨_, failed, -⟩ | ⟨other, first, rest, rfl, came, goes⟩
  · cases loadReport_reads failed shown
  split at goes
  · next status adopted =>
    have unsent := writing_unsent (fun _ => asks_pure) goes
    rcases shown.of_append with early | late
    · cases loadReport_reads came early
      exact absurd idle (JobStatus.adopt?_eq_some.mp adopted).1
    · obtain ⟨_, _, _, _, _, member, -⟩ := late
      exact absurd trivial (unsent _ member)
  · rcases ends_ofExcept_bind.mp goes with ⟨_, same, rfl, rfl⟩ | ⟨wanted, made, -⟩
    · cases (unordered _).symm.trans same
      rw [List.append_nil]
      exact ⟨management_unwritten came, rfl⟩
    · cases (unordered _).symm.trans made

theorem order_follows (ends : (j.pass pace).Ends log r) {peer : Endpoint} {port : Nat} {credentials : Credentials}
    {node : String} {order : RebalanceOrder} {reply : Except TransportFailure Response}
    (sent : ⟨.send peer port credentials (.startRebalance node order), reply⟩ ∈ log) :
    ∃ nodes, RebalanceOrder.ofStrategy j.spec.strategy nodes = .ok order := by
  obtain ⟨stage, decided, -⟩ := grounds_of_made (Dialogue.Yields.comes ends) sent
  obtain ⟨ns, c, client, now, first, mid, rest, result, final, place, rfl, looks, member, goes, settles, rfl⟩ :=
    pass_goes stage ends sent trivial
  rcases goes with ⟨-, begins⟩ | ⟨processing, -⟩
  · have heeds : (j.begin pace c client now).Heeds (fun _ c => c.Follows j.spec.strategy) [] := begin_follows
    obtain ⟨_, _, -, follows⟩ := heeds.of_made (Dialogue.Yields.comes begins) member
    exact follows
  · cases processing.symm.trans decided.unstarted

theorem pass_unordered (ends : (j.pass pace).Ends log r) (becomes : j.Becomes log k) (unstarted : j.phase? = none)
    (shown : Reports log report) (idle : report.rebalances = [])
    (refused : RebalanceOrder.readThresholds j.spec.strategy = .error e) (succeed : WritesSucceed log) :
    ∃ now, k = { j with status := some (j.currentStatus.markFailed (Failure.threshold e).message now) } ∧
      r = .ok .await := by
  obtain ⟨peer, port, credentials, response, document, answered, reads⟩ := shown
  have stage : j.stage = .apply := grounds_of_made (Dialogue.Yields.comes ends) answered
  obtain ⟨ns, c, client, now, first, mid, rest, result, final, place, rfl, looks, member, goes, settles, rfl⟩ :=
    pass_goes stage ends answered trivial
  rcases goes with ⟨-, begins⟩ | ⟨processing, -⟩
  · obtain ⟨unwritten, rfl⟩ :=
      begin_unordered begins ⟨peer, port, credentials, response, document, member, reads⟩ idle refused
    rw [← List.append_assoc] at becomes
    obtain ⟨now, same, rfl⟩ := settles.records_failure rfl ((unwritten_of_looks looks).append unwritten) place
      succeed.of_append.2.of_append.2 becomes
    exact ⟨now, same, rfl⟩
  · cases unstarted.symm.trans processing

/-- Where an order can be made of a strategy its text has the members that are set, a relative threshold among them as a
number exactly if it is finite and else as `null`. Where none can be made a threshold that is set is no literal, and a
job whose run would be started is ended as failed for that, if what is written is done. A job sends no other orders to
start its run. -/
theorem thresholds_are_numbers_when_finite (s : RebalanceStrategy) :
    (∀ nodes, match RebalanceOrder.ofStrategy s nodes with
      | .ok order => ∃ members,
          (∀ node, (ManagementRequest.startRebalance node order).body.toList = objectText members) ∧
          members.map (·.1) = s.memberNames ∧ s.memberNames.Nodup ∧
          (∀ text, s.relConnThreshold = some text → RebalanceOrder.Carries members "rel_conn_threshold" text) ∧
          (∀ text, s.relSessThreshold = some text → RebalanceOrder.Carries members "rel_sess_threshold" text)
      | .error e => (∃ text ∈ s.relativeThresholds, readLiteral text = .error e) ∧
          ∀ (j k : Job) (pace : JobPace) (log : List Exchange) (r : Except Failure Action) (report : LoadReport),
            j.spec.strategy = s → (j.pass pace).Ends log r → j.Becomes log k → j.phase? = none →
            Reports log report → report.rebalances = [] → WritesSucceed log → EndsFailed k r ∧
              ∃ now, k.status = some (j.currentStatus.markFailed (Failure.threshold e).message now)) ∧
    ∀ (j : Job) (pace : JobPace) (log : List Exchange) (r : Except Failure Action), j.spec.strategy = s →
      (j.pass pace).Ends log r → ∀ peer port credentials node order reply,
        ⟨.send peer port credentials (.startRebalance node order), reply⟩ ∈ log →
        ∃ nodes, RebalanceOrder.ofStrategy s nodes = .ok order := by
  refine ⟨?_, ?_⟩
  · intro nodes
    cases made : RebalanceOrder.ofStrategy s nodes with
    | ok order =>
        obtain ⟨members, text, names, conn, sess⟩ := RebalanceOrder.body_of_strategy made
        exact ⟨members, text, names, s.memberNames_distinct, conn, sess⟩
    | error e =>
        have refused := RebalanceOrder.ofStrategy_eq_error.mp made
        refine ⟨RebalanceOrder.readThresholds_error refused, ?_⟩
        rintro j k pace log r report rfl ends becomes unstarted shown idle succeed
        obtain ⟨now, rfl, rfl⟩ := pass_unordered ends becomes unstarted shown idle refused succeed
        exact ⟨⟨rfl, markFailed_holds, rfl⟩, now, rfl⟩
  · rintro j pace log r rfl ends peer port credentials node order reply sent
    exact order_follows ends sent

/-! ### Sample thresholds -/

def strategyFrom (threshold : String) : RebalanceStrategy :=
  ⟨10, 20, none, none, none, some threshold, none, none⟩

def jobFrom (threshold : String) : Job :=
  { sampleJob "first" none with spec := ⟨"broker", strategyFrom threshold⟩ }

theorem unreadable_order (nodes : List String) :
    RebalanceOrder.ofStrategy (strategyFrom "lots") nodes = .error .invalid := by
  have refused : RebalanceOrder.readThresholds (strategyFrom "lots") = .error .invalid := by decide +kernel
  exact RebalanceOrder.ofStrategy_eq_error.mpr refused

def unorderedStart : List Exchange :=
  (jobFrom "lots").looksAround "default" runningCluster [] ++
    [⟨.getSecret "default" runningCluster.secretName, .ok sampleSecret⟩, ⟨.clock, sampleTime 1⟩,
      ⟨.send samplePeer 18083 ⟨"user", "key"⟩ .loadStatus, .ok plainAnswer⟩]

theorem sample_unordered : ((jobFrom "lots").drive (samplePace 5)).Ends unorderedStart
    (.error (.threshold .invalid)) := by
  have asked := ManagementClient.ask_succeeds ⟨⟨"user", "key"⟩, 18083⟩ samplePeer pathFault?_loadStatus
    (plainAnswer_payload _) plainAnswer_decoded
  have begins : ((jobFrom "lots").begin (samplePace 5) runningCluster ⟨⟨"user", "key"⟩, 18083⟩ (sampleTime 1)).Ends
      [⟨.send samplePeer 18083 ⟨"user", "key"⟩ .loadStatus, .ok plainAnswer⟩] (.error (.threshold .invalid)) := by
    unfold begin Job.decided
    refine ends_ofExcept_bind.mpr (.inr ⟨_, coordinator_sample, ?_⟩)
    refine ends_bind.mpr (.inr ⟨_, [_], [], rfl, ends_mapFailure.mpr ⟨_, asked, rfl⟩, ?_⟩)
    refine ends_ofExcept_bind.mpr (.inl ⟨.threshold .invalid, ?_, rfl, rfl⟩)
    exact congrArg (Except.mapError Failure.threshold) (unreadable_order _)
  exact drive_onCluster rfl rfl (.inl ⟨rfl, rfl⟩) rfl credentialsOf_sample begins

def unorderedStatus : JobStatus :=
  JobStatus.initial.markFailed (Failure.threshold .invalid).message (sampleTime 1)

theorem unordered_pass : ∃ log k r, ((jobFrom "lots").pass (samplePace 5)).Ends log r ∧ (jobFrom "lots").Becomes log k ∧
    Reports log ⟨[], []⟩ ∧ WritesSucceed log := by
  have settled : (jobFrom "lots").settled? (.threshold .invalid) (sampleTime 1) = some unorderedStatus := rfl
  have ends := pass_ends_failed rfl rfl sample_unordered settled (differs_of_phase (by decide))
  have unwritten : Unwritten (unorderedStart ++ [⟨.clock, sampleTime 1⟩]) := by
    simp [Unwritten, unorderedStart, looksAround]
  have aside : ∀ x ∈ ([⟨.tell ⟨.warning, "RebalanceFailed", (Failure.threshold .invalid).message⟩, ()⟩] : List Exchange),
      x.call.Aside := by simp [Call.Aside]
  rw [List.append_cons] at ends
  refine ⟨_, _, _, ends, becomes_written unwritten (.recorded (.ok ())) aside, ?_,
    unwritten.then_succeeds "default" (.jobStatus "first" unorderedStatus) () aside⟩
  exact ⟨samplePeer, 18083, ⟨"user", "key"⟩, plainAnswer, _, by simp [unorderedStart],
    plainAnswer_payload _, plainAnswer_decoded⟩

/-- A job with a threshold that is no literal is ended as failed, and a finite threshold is sent as a number. -/
theorem unreadable_threshold_ends_job :
    (∃ log k r, ((jobFrom "lots").pass (samplePace 5)).Ends log r ∧ (jobFrom "lots").Becomes log k ∧ EndsFailed k r) ∧
    ∃ order members value, RebalanceOrder.ofStrategy (strategyFrom "1.1") ["a"] = .ok order ∧
      (∀ node, (ManagementRequest.startRebalance node order).body.toList = objectText members) ∧
      members.map (·.1) = ["conn_evict_rate", "sess_evict_rate", "rel_conn_threshold", "nodes"] ∧
      ("rel_conn_threshold", value) ∈ members ∧ IsNumeral value := by
  refine ⟨?_, ?_⟩
  · obtain ⟨log, k, r, ends, becomes, shown, succeed⟩ := unordered_pass
    have outcome := (thresholds_are_numbers_when_finite (strategyFrom "lots")).1 []
    rw [unreadable_order] at outcome
    exact ⟨log, k, r, ends, becomes, (outcome.2 _ k _ log r _ rfl ends becomes rfl shown rfl succeed).1⟩
  · have read : readLiteral "1.1" = .ok (.finite ⟨false, 4953959590107546, -52⟩) := by decide +kernel
    have made : RebalanceOrder.ofStrategy (strategyFrom "1.1") ["a"] =
      .ok ⟨10, 20, none, none, none, some (.finite ⟨false, 4953959590107546, -52⟩), none, none, ["a"]⟩ := by decide +kernel
    have outcome := (thresholds_are_numbers_when_finite (strategyFrom "1.1")).1 ["a"]
    rw [made] at outcome
    obtain ⟨members, text, names, -, conn, -⟩ := outcome
    obtain ⟨value, reading, there, same, finite, -⟩ := conn "1.1" rfl
    cases read.symm.trans same
    exact ⟨_, members, value, made, text, names, there, finite.mpr ⟨_, rfl⟩⟩

def endlessOrder : RebalanceOrder :=
  ⟨10, 20, none, none, none, some (.infinite false), none, none, ["a"]⟩

/-- A decimal beyond the greatest number is a literal, and it is sent as `null`. -/
theorem endless_threshold_is_null : ∃ order members,
    RebalanceOrder.ofStrategy (strategyFrom "1e400") ["a"] = .ok order ∧ toJson order = .object members ∧
    (∀ node, (ManagementRequest.startRebalance node order).body = "\x7b\"conn_evict_rate\":10," ++
      "\"sess_evict_rate\":20,\"rel_conn_threshold\":null,\"nodes\":[\"a\"]\x7d") ∧
    ("rel_conn_threshold", "null".toList) ∈ memberTexts members ∧ ¬ IsNumeral "null".toList := by
  have text : (toJson endlessOrder).compact = "\x7b\"conn_evict_rate\":10," ++
      "\"sess_evict_rate\":20,\"rel_conn_threshold\":null,\"nodes\":[\"a\"]\x7d" := by decide +kernel
  exact ⟨endlessOrder, _, by decide +kernel, rfl, fun _ => text, by decide +kernel, not_isNumeral_null⟩

end Job

end BrokerFleet
