import BrokerFleet.Kubernetes.Write
import BrokerFleet.Proofs.Kubernetes.Metadata

/-!
What the patches of the operator do to the documents that they are merged into, as these are read afterwards.
-/

namespace BrokerFleet

open Json Kubernetes Rehearsal

variable {object sent : Json} {replicas : Int32}

/-! ### StatefulSets -/

namespace Kubernetes.StatefulSet

variable {set set' : StatefulSet}

theorem replicas_of_spec {given normal : Option Json} (spec : Shape.statefulSetSpec.ReadsMember false given normal) :
    (normal.bind fun spec => (spec.field? "replicas").bind ofJson?) =
      (given.bind (member? ["replicas"])).bind (ofJson? : Json → Option Int32) := by
  cases spec with
  | absent missing => rcases missing with rfl | ⟨rfl, -⟩ <;> rfl
  | @present value normal _ reads =>
      have count : Shape.int32.ReadsMember false (value.field? "replicas") (normal.field? "replicas") :=
        Shape.readsMember_of_object reads (by decide) rfl
      rw [Option.bind_some, Option.bind_some, member?_cons]
      generalize value.field? "replicas" = given, normal.field? "replicas" = shown at count
      cases count with
      | absent missing => rcases missing with rfl | ⟨rfl, -⟩ <;> rfl
      | present _ kept =>
          obtain ⟨_, _, rfl⟩ := Option.map_eq_some_iff.mp kept
          rfl

theorem ofJson?_parts (read : ofJson? object = some set) :
    set.name = text? ["metadata", "name"] object ∧ set.hash = text? ["metadata", "labels", hashLabel] object ∧
      set.replicas = (member? ["spec", "replicas"] object).bind ofJson? ∧
      (Meta.ofResource? object).map (·.created) = some set.created := by
  obtain ⟨normal, shaped, read⟩ := Option.bind_eq_some_iff.mp read
  obtain ⟨given, out, rfl, rfl, -⟩ := Shape.normalize?_object shaped
  obtain ⟨_, fields, read⟩ := Option.bind_eq_some_iff.mp read
  cases fields
  obtain ⟨m, metadata, same⟩ := Option.bind_eq_some_iff.mp read
  cases same
  obtain ⟨named, labelled⟩ := Meta.ofResource?_texts metadata
  have spec : Shape.statefulSetSpec.ReadsMember false (Json.field? "spec" (.object given)) (lookup "spec" out) :=
    Shape.readsMember_of_object shaped (by decide) rfl
  exact ⟨named, labelled hashLabel, replicas_of_spec spec, by rw [metadata]; rfl⟩

theorem field?_scalePatch {name : String} (other : name ≠ "spec") :
    (object.merge (Write.scalePatch replicas)).field? name = object.field? name :=
  field?_merge_other other

theorem member?_scalePatch :
    member? ["spec", "replicas"] (object.merge (Write.scalePatch replicas)) = some (toJson replicas) := by
  rw [Write.scalePatch, member?_merge (by simp [toJson])]
  simp [toJson, merge]

theorem normalize?_int32 : Shape.int32.normalize? (toJson replicas) = some (toJson replicas) := by
  have count : (ofJson? (toJson replicas) : Option Int32) = some replicas := Lawful.reads faithful_id replicas
  exact (congrArg (Option.map fun _ => toJson replicas) count).trans rfl

theorem normalize?_spec {given normal : Option Json} (spec : Shape.statefulSetSpec.ReadsMember false given normal) :
    ∃ normal', Shape.statefulSetSpec.normalize? ((given.getD .null).merge (.object [("replicas", toJson replicas)])) =
      some normal' := by
  have sized : ∀ {value normal : Json}, Shape.statefulSetSpec.normalize? value = some normal → ∃ normal',
      Shape.statefulSetSpec.normalize? (value.merge (.object [("replicas", toJson replicas)])) = some normal' := by
    intro value normal read
    have number : ∀ old : Json, old.merge (toJson replicas) = toJson replicas := fun old => by simp [toJson, merge]
    refine Shape.normalize?_merge read (by decide) rfl (by simp) ?_ ⟨toJson replicas, ?_⟩
    · rw [number]
      simp [toJson]
    · rw [number]
      exact normalize?_int32
  cases spec with
  | absent missing =>
      -- A patch makes of a spec that is not there what it makes of an empty one.
      have empty : (Json.object []).merge (.object [("replicas", toJson replicas)]) =
          Json.null.merge (.object [("replicas", toJson replicas)]) := by rw [merge_object, merge_object]; rfl
      have read : ∃ normal, Shape.statefulSetSpec.normalize? (.object []) = some normal := ⟨_, rfl⟩
      obtain ⟨normal, read⟩ := read
      have sized := sized read
      rw [empty] at sized
      rcases missing with rfl | ⟨rfl, -⟩ <;> exact sized
  | present _ reads => exact sized reads

theorem of_scalePatch (read : ofJson? object = some set)
    (again : ofJson? (object.merge (Write.scalePatch replicas)) = some set') :
    set' = { set with replicas := some replicas } := by
  obtain ⟨named, hashed, -, created⟩ := ofJson?_parts read
  obtain ⟨named', hashed', sized, created'⟩ := ofJson?_parts again
  have same : (object.merge (Write.scalePatch replicas)).field? "metadata" = object.field? "metadata" :=
    field?_scalePatch (by decide)
  have count : (ofJson? (toJson replicas) : Option Int32) = some replicas := Lawful.reads faithful_id replicas
  rw [member?_scalePatch, Option.bind_some, count] at sized
  unfold Meta.ofResource? at created created'
  rw [same] at created'
  rw [text?_congr same] at named' hashed'
  cases set
  cases set'
  simp only [mk.injEq]
  exact ⟨named'.trans named.symm, hashed'.trans hashed.symm, sized, Option.some.inj (created'.symm.trans created)⟩

/-- The patch of a size can be stored: the set is read as it was, but for its size. -/
theorem scalePatch_reads (read : ofJson? object = some set) :
    ofJson? (object.merge (Write.scalePatch replicas)) = some { set with replicas := some replicas } := by
  obtain ⟨normal, shaped, parts⟩ := Option.bind_eq_some_iff.mp read
  obtain ⟨given, out, rfl, rfl, -⟩ := Shape.normalize?_object shaped
  obtain ⟨_, fields, parts⟩ := Option.bind_eq_some_iff.mp parts
  cases fields
  obtain ⟨m, metadata, -⟩ := Option.bind_eq_some_iff.mp parts
  have spec : Shape.statefulSetSpec.ReadsMember false (Json.field? "spec" (.object given)) (lookup "spec" out) :=
    Shape.readsMember_of_object shaped (by decide) rfl
  obtain ⟨normal', shaped'⟩ := Shape.normalize?_merge shaped (by decide) rfl (by simp) (by simp [merge_object])
    (normalize?_spec spec)
  obtain ⟨given', out', same, rfl, -⟩ := Shape.normalize?_object shaped'
  have metadata' : Meta.ofResource? (Json.merge (.object given) (Write.scalePatch replicas)) = some m := by
    unfold Meta.ofResource? at metadata ⊢
    rwa [field?_scalePatch (by decide)]
  have again : ∃ set' : StatefulSet, ofJson? (Json.merge (.object given) (Write.scalePatch replicas)) = some set' :=
    ⟨_, Option.bind_eq_some_iff.mpr ⟨_, shaped', Option.bind_eq_some_iff.mpr ⟨_, rfl,
      Option.bind_eq_some_iff.mpr ⟨m, metadata', rfl⟩⟩⟩⟩
  obtain ⟨set', again⟩ := again
  rw [again, of_scalePatch read again]

end Kubernetes.StatefulSet

/-! ### Manifests -/

theorem ChildMeta.toJson_members (m : ChildMeta) : ∃ members, toJson m = .object members ∧
    (members.map (·.1)).Nodup ∧ lookup "labels" members = some (texts m.labels) := by
  obtain ⟨name, ns, owner, labels⟩ := m
  cases ns with
  | none => exact ⟨_, rfl, by simp, rfl⟩
  | some ns => exact ⟨_, rfl, by simp, rfl⟩

namespace GenerationManifest

variable {m : GenerationManifest} {name text : String} {set : StatefulSet}

theorem label_applied (distinct : (m.metadata.labels.map (·.1)).Nodup)
    (there : m.metadata.labels.get? name = some text) :
    text? ["metadata", "labels", name] (object.merge (toJson m)) = some text := by
  obtain ⟨members, metadata, apart, labels⟩ := m.metadata.toJson_members
  have names : ((textMembers m.metadata.labels).map (·.1)).Nodup := by
    rwa [textMembers_names]
  have label : lookup name (textMembers m.metadata.labels) = some (.string text) :=
    field?_texts.trans (by rw [there]; rfl)
  have outer : (object.merge (toJson m)).field? "metadata" =
      some (((object.field? "metadata").getD .null).merge (toJson m.metadata)) :=
    field?_merge_of_some (by simp) rfl (by simp [metadata])
  rw [text?, member?_cons, outer, metadata, Option.bind_some, member?_cons,
    field?_merge_of_some apart labels (by simp [texts_eq]), Option.bind_some, member?_cons, texts_eq,
    field?_merge_of_some names label (by simp)]
  simp [merge, ofJson?]

theorem replicas_applied : member? ["spec", "replicas"] (object.merge (toJson m)) = some (toJson m.replicas) := by
  have outer : (object.merge (toJson m)).field? "spec" = some (((object.field? "spec").getD .null).merge (.object [
      ("podManagementPolicy", .string "Parallel"), ("replicas", toJson m.replicas),
      ("selector", .object [("matchLabels", texts m.metadata.labels)]), ("serviceName", .string m.serviceName),
      ("template", .object [("metadata", .object [("labels", texts m.metadata.labels)]), ("spec", m.podSpec)])])) :=
    field?_merge_of_some (by simp) rfl (by simp)
  rw [member?_cons, outer, Option.bind_some, member?_cons, field?_merge_of_some (by simp) rfl (by simp)]
  simp [toJson, merge]

end GenerationManifest

/-! ### Pods -/

def Rehearsal.conditionItems (object : Json) : List Json :=
  match member? ["status", "conditions"] object with
  | some (.array items) => items
  | _ => []

def Kubernetes.PodCondition.ofItem (item : Json) : PodCondition :=
  ⟨(text? ["type"] item).getD "", (text? ["status"] item).getD "" == "True"⟩

def Kubernetes.PodCondition.gated (serving : Bool) (c : PodCondition) : PodCondition :=
  if c.type = servingGate then { c with holds := serving } else c

def Kubernetes.Pod.gated (serving : Bool) (pod : Pod) : Pod :=
  { pod with
    conditions :=
      if pod.conditions.any (·.type == servingGate) then pod.conditions.map (·.gated serving)
      else pod.conditions ++ [⟨servingGate, serving⟩] }

namespace Kubernetes.Pod

variable {pod pod' : Pod} {serving : Bool} {since : String}

theorem text_always {given normal : Option Json} (member : Shape.string.ReadsMember true given normal) :
    normal.bind ofJson? = some ((given.bind (ofJson? : Json → Option String)).getD "") := by
  cases member with
  | absent missing => rcases missing with rfl | ⟨rfl, -⟩ <;> rfl
  | present _ kept =>
      obtain ⟨text, isText, rfl⟩ := Option.map_eq_some_iff.mp kept
      simp [isText]

theorem conditionOf?_normal {item normal : Json}
    (read : (Shape.condition ["lastProbeTime", "lastTransitionTime"]).normalize? item = some normal) :
    conditionOf? normal = some (.ofItem item) := by
  have type : Shape.string.ReadsMember true (item.field? "type") (normal.field? "type") :=
    Shape.readsMember_of_object read (by decide) rfl
  have status : Shape.string.ReadsMember true (item.field? "status") (normal.field? "status") :=
    Shape.readsMember_of_object read (by decide) rfl
  unfold conditionOf? PodCondition.ofItem text?
  rw [text_always type, text_always status, member?_singleton, member?_singleton]
  rfl

theorem filterMap_conditionOf? {items out : List Json}
    (read : items.mapM (Shape.condition ["lastProbeTime", "lastTransitionTime"]).normalize? = some out) :
    out.filterMap conditionOf? = items.map .ofItem := by
  have each := mapM_eq_some.mp read
  clear read
  induction each with
  | nil => rfl
  | cons first _ ih => rw [List.filterMap_cons, conditionOf?_normal first, List.map_cons, ih]

theorem conditions_of_status {given normal : Option Json} (status : Shape.podStatus.ReadsMember false given normal) :
    (match normal.bind (Json.field? "conditions") with
      | some (.array items) => items.filterMap conditionOf?
      | _ => []) =
    (match given.bind (member? ["conditions"]) with
      | some (.array items) => items
      | _ => []).map .ofItem := by
  cases status with
  | absent missing => rcases missing with rfl | ⟨rfl, -⟩ <;> rfl
  | @present value normal _ reads =>
      have list : (Shape.list (Shape.condition ["lastProbeTime", "lastTransitionTime"])).ReadsMember false
          (value.field? "conditions") (normal.field? "conditions") :=
        Shape.readsMember_of_object reads (by decide) rfl
      rw [Option.bind_some, Option.bind_some, member?_cons]
      generalize value.field? "conditions" = given, normal.field? "conditions" = shown at list
      cases list with
      | absent missing => rcases missing with rfl | ⟨rfl, -⟩ <;> rfl
      | @present value _ _ reads =>
          cases value with
          | array items =>
              obtain ⟨out, each, rfl⟩ := Option.map_eq_some_iff.mp reads
              exact filterMap_conditionOf? each
          | _ => cases reads

def StandsIn (pod : Pod) (object : Json) : Prop :=
  ∃ m, Meta.ofResource? object = some m ∧
    pod = ⟨m.displayName, m.owners.getD [], m.label? hashLabel, (conditionItems object).map .ofItem⟩

theorem StandsIn.unique (stands : pod.StandsIn object) (stands' : pod'.StandsIn object) : pod = pod' := by
  obtain ⟨m, metadata, rfl⟩ := stands
  obtain ⟨m', metadata', rfl⟩ := stands'
  cases metadata.symm.trans metadata'
  rfl

theorem standsIn_of_read (read : ofJson? object = some pod) : pod.StandsIn object := by
  obtain ⟨normal, shaped, read⟩ := Option.bind_eq_some_iff.mp read
  obtain ⟨given, out, rfl, rfl, -⟩ := Shape.normalize?_object shaped
  obtain ⟨_, fields, read⟩ := Option.bind_eq_some_iff.mp read
  cases fields
  obtain ⟨m, metadata, same⟩ := Option.bind_eq_some_iff.mp read
  cases same
  have status : Shape.podStatus.ReadsMember false (Json.field? "status" (.object given)) (lookup "status" out) :=
    Shape.readsMember_of_object shaped (by decide) rfl
  exact ⟨m, metadata, congrArg (Pod.mk _ _ _) (conditions_of_status status)⟩

def gateCondition (serving : Bool) (since : String) : Json :=
  .object [("lastTransitionTime", .string since), ("status", .string (ConditionStatus.ofBool serving).word),
    ("type", .string servingGate)]

theorem field?_type_beq {item : Json} :
    (item.field? "type" == some (.string servingGate)) = ((PodCondition.ofItem item).type == servingGate) := by
  have text : (PodCondition.ofItem item).type = ((item.field? "type").bind ofJson?).getD "" := by
    unfold PodCondition.ofItem text?
    rw [member?_singleton]
  rw [text]
  cases item.field? "type" with
  | none => rfl
  | some value => cases value <;> rfl

theorem ofItem_merge {item : Json} :
    PodCondition.ofItem (item.merge (gateCondition serving since)) = ⟨servingGate, serving⟩ := by
  unfold PodCondition.ofItem text? gateCondition
  rw [member?_singleton, member?_singleton, field?_merge_of_some (by simp) rfl (by simp),
    field?_merge_of_some (by simp) rfl (by simp)]
  cases serving <;> simp [merge, ofJson?, ConditionStatus.ofBool, ConditionStatus.word]

theorem conditions_mergeCondition {items : List Json} :
    (Store.mergeCondition items (gateCondition serving since)).map PodCondition.ofItem =
      if (items.map PodCondition.ofItem).any (·.type == servingGate) then
        (items.map PodCondition.ofItem).map (·.gated serving)
      else items.map PodCondition.ofItem ++ [⟨servingGate, serving⟩] := by
  have type : (gateCondition serving since).field? "type" = some (.string servingGate) := rfl
  unfold Store.mergeCondition
  rw [type]
  simp only [field?_type_beq, List.any_map, Function.comp_def]
  split
  · rw [List.map_map, List.map_map]
    refine List.map_congr_left fun item _ => ?_
    simp only [Function.comp_apply, PodCondition.gated, beq_iff_eq]
    split
    · next here => rw [ofItem_merge, ← here]
    · rfl
  · have added : PodCondition.ofItem (gateCondition serving since) = ⟨servingGate, serving⟩ := by cases serving <;> rfl
    rw [List.map_append, List.map_singleton, added]

theorem conditionItems_mergeConditions :
    conditionItems (Store.mergeConditions (Write.gatePatch serving since) object) =
      Store.mergeCondition (conditionItems object) (gateCondition serving since) := by
  have merged : Store.mergeConditions (Write.gatePatch serving since) object =
      setMember ["status", "conditions"]
        (.array (Store.mergeCondition (conditionItems object) (gateCondition serving since))) object := rfl
  have there : ∀ items, member? ["status", "conditions"] (setMember ["status", "conditions"] (.array items) object) =
      some (.array items) := by
    intro items
    rw [setMember, List.foldr_cons, List.foldr_cons, List.foldr_nil, member?_merge (by simp)]
    simp [merge]
  rw [merged, conditionItems, there]

theorem field?_mergeConditions {name : String} (other : name ≠ "status") :
    (Store.mergeConditions (Write.gatePatch serving since) object).field? name = object.field? name :=
  field?_merge_other other

/-- The pod that stands in a document stands in the patched one with its gate opened or closed. -/
theorem StandsIn.gated (stands : pod.StandsIn object) (serving : Bool) (since : String) :
    (pod.gated serving).StandsIn (Store.mergeConditions (Write.gatePatch serving since) object) := by
  obtain ⟨m, metadata, rfl⟩ := stands
  refine ⟨m, ?_, ?_⟩
  · unfold Meta.ofResource? at metadata ⊢
    rwa [field?_mergeConditions (by decide)]
  · rw [conditionItems_mergeConditions, conditions_mergeCondition]
    rfl

end Kubernetes.Pod

/-- A pod as it is stored under its name, with what is read of its document. -/
structure StoredPod where
  name : String
  object : Json
  shown : Pod
  reads : ofJson? object = some shown
  named : shown.name = name

namespace StoredPod

/-- The pod is what a write makes of an old one. -/
structure IsWritten (pod old : StoredPod) (w : Write) : Prop where
  name : pod.name = old.name
  object : Store.written w.verb w.body (Store.editsOf w) (some old.object) = .ok pod.object

variable {pod old : StoredPod} {name since selector : String} {serving : Bool}

theorem shown_names (pods : List StoredPod) : (pods.map (·.shown)).map (·.name) = pods.map (·.name) := by
  rw [List.map_map]
  exact List.map_congr_left fun pod _ => pod.named

theorem IsWritten.shown (written : pod.IsWritten old (.setServingGate name serving since)) :
    pod.shown = old.shown.gated serving := by
  have sent : Store.mergeConditions (Write.gatePatch serving since) old.object = pod.object :=
    Except.ok.inj written.object
  have gated := (Pod.standsIn_of_read old.reads).gated serving since
  rw [sent] at gated
  exact (Pod.standsIn_of_read pod.reads).unique gated

theorem IsWritten.isSelected (written : pod.IsWritten old (.setServingGate name serving since)) :
    Store.isSelected selector pod.object = Store.isSelected selector old.object := by
  have sent : Store.mergeConditions (Write.gatePatch serving since) old.object = pod.object :=
    Except.ok.inj written.object
  rw [isSelected_eq, isSelected_eq, ← sent]
  exact carries_congr (Pod.field?_mergeConditions (by decide))

end StoredPod

def podDocument (name set : String) (labels : Labels) : Json :=
  .object [("apiVersion", .string "v1"), ("kind", .string "Pod"),
    ("metadata", .object [("labels", texts labels), ("name", .string name),
      ("ownerReferences", .array [.object [("apiVersion", .string "apps/v1"), ("blockOwnerDeletion", .bool true),
        ("controller", .bool true), ("kind", .string "StatefulSet"), ("name", .string set), ("uid", .string "")]])]),
    ("status", .object [("conditions", .array [.object [("status", .string "True"),
      ("type", .string "ContainersReady")]])])]

/-! ### Jobs -/

namespace Job

variable {j k : Job} {attempts : Nat} {retryAt : String}

def deferred (j : Job) (attempts : Nat) (retryAt : String) : Job :=
  { j with metadata := { j.metadata with
    annotations := some (((j.metadata.annotations.getD []).set stopAttemptsKey (toString attempts)).set
      stopRetryAtKey retryAt) } }

def deferralTexts (attempts : Nat) (retryAt : String) : Labels :=
  [(stopAttemptsKey, toString attempts), (stopRetryAtKey, retryAt)]

def deferralMeta (attempts : Nat) (retryAt : String) : Json :=
  .object [("annotations", texts (deferralTexts attempts retryAt))]

theorem merge_deferralTexts {l : Labels} (target : Json) (has : target.objectMembers = textMembers l) :
    target.merge (texts (deferralTexts attempts retryAt)) =
      texts ((l.set stopAttemptsKey (toString attempts)).set stopRetryAtKey retryAt) := by
  rw [texts, merge_object, has]
  simp only [deferralTexts, List.map_cons, List.map_nil, mergeMembers, merge]
  rw [insert_texts, insert_texts]
  rfl

theorem ofJson?_object {members : Members} : ofJson? (.object members) = some j ↔
    (lookup "metadata" members).bind Meta.ofJson? = some j.metadata ∧
      (lookup "spec" members).bind ofJson? = some j.spec ∧
      ofJson? ((lookup "status" members).getD .null) = some j.status := by
  constructor
  · intro read
    obtain ⟨⟨metadata, spec, status⟩, parts, read⟩ := Option.bind_eq_some_iff.mp read
    obtain ⟨m, first, rest⟩ := Option.bind_eq_some_iff.mp parts
    obtain ⟨s, second, same⟩ := Option.bind_eq_some_iff.mp rest
    cases same
    obtain ⟨s', third, last⟩ := Option.bind_eq_some_iff.mp read
    obtain ⟨t, fourth, done⟩ := Option.bind_eq_some_iff.mp last
    cases done
    exact ⟨first, Option.bind_eq_some_iff.mpr ⟨_, second, third⟩, fourth⟩
  · intro read
    obtain ⟨first, spec, fourth⟩ := read
    obtain ⟨s, second, third⟩ := Option.bind_eq_some_iff.mp spec
    have parts : resourceParts? (.object members) = some (j.metadata, s, (lookup "status" members).getD .null) :=
      Option.bind_eq_some_iff.mpr ⟨_, first, Option.bind_eq_some_iff.mpr ⟨_, second, rfl⟩⟩
    exact Option.bind_eq_some_iff.mpr ⟨_, parts, Option.bind_eq_some_iff.mpr ⟨_, third,
      Option.bind_eq_some_iff.mpr ⟨_, fourth, rfl⟩⟩⟩

/-- The patch that puts an attempt off can be stored: the job is read as it was, but for the count and the time. -/
theorem deferralPatch_reads {members : Members} (read : ofJson? (.object members) = some j) :
    ofJson? (Json.merge (.object members) (Write.deferralPatch attempts retryAt)) =
      some (j.deferred attempts retryAt) := by
  obtain ⟨metadata, spec, status⟩ := ofJson?_object.mp read
  obtain ⟨value, there, own⟩ := Option.bind_eq_some_iff.mp metadata
  have merged : ((value.field? "annotations").getD .null).merge (texts (deferralTexts attempts retryAt)) =
      texts (((j.metadata.annotations.getD []).set stopAttemptsKey (toString attempts)).set stopRetryAtKey
        retryAt) := by
    refine merge_deferralTexts _ ?_
    rcases Meta.annotations_of_read own with ⟨none, missing | missing⟩ | ⟨l, some, given⟩
    · rw [none, missing]
      rfl
    · rw [none, missing]
      rfl
    · rw [some, given]
      rfl
  have patch : Write.deferralPatch attempts retryAt = .object [("metadata", deferralMeta attempts retryAt)] := rfl
  have same : ∀ name, name ≠ "metadata" →
      (Json.merge (.object members) (Write.deferralPatch attempts retryAt)).field? name = lookup name members :=
    fun name other => field?_merge_other other
  have here : (Json.merge (.object members) (Write.deferralPatch attempts retryAt)).field? "metadata" =
      some (value.merge (deferralMeta attempts retryAt)) := by
    have solid : deferralMeta attempts retryAt ≠ .null := by simp [deferralMeta]
    have self := field?_merge_self (.object members) "metadata" solid
    rwa [show Json.field? "metadata" (.object members) = some value from there] at self
  rw [patch, merge_object] at same here ⊢
  refine ofJson?_object.mpr ⟨?_, ?_, ?_⟩
  · exact (congrArg (Option.bind · Meta.ofJson?) here).trans (Meta.annotations_merged own merged)
  · exact (congrArg (Option.bind · ofJson?) (same "spec" (by decide))).trans spec
  · exact (congrArg (fun status => ofJson? (status.getD .null)) (same "status" (by decide))).trans status

/-- A job that was patched after an attempt to stop it failed has the count and the time, and nothing else of it
changed. -/
theorem of_deferralPatch (read : ofJson? object = some j)
    (again : ofJson? (object.merge (Write.deferralPatch attempts retryAt)) = some k) :
    k = j.deferred attempts retryAt := by
  cases object with
  | object members => exact Option.some.inj (again.symm.trans (deferralPatch_reads read))
  | _ => cases (ofJson?_object.mp again).2.1

end Job

end BrokerFleet
