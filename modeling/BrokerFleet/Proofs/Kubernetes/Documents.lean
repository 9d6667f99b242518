import BrokerFleet.Proofs.Json.Merging
import BrokerFleet.Proofs.Separators
import BrokerFleet.Rehearsal.Store

/-!
Documents as the API keeps them: what stands at a path, what a patch leaves there, and which of them a selector selects.
The text of a cluster's selector selects the documents that carry its labels.
-/

namespace BrokerFleet

open Json Kubernetes Rehearsal

namespace Rehearsal

variable {name : String} {path : List String} {object : Json}

@[simp] theorem member?_nil : member? [] object = some object := rfl

@[simp] theorem member?_cons : member? (name :: path) object = (object.field? name).bind (member? path) := rfl

theorem member?_singleton : member? [name] object = object.field? name := by
  rw [member?_cons]
  cases object.field? name <;> rfl

theorem field?_getD (value : Option Json) : (value.getD .null).field? name = value.bind (Json.field? name) := by
  cases value <;> rfl

theorem member?_merge {outer inner : String} {p : Json} (solid : p ≠ .null) :
    member? [outer, inner] (object.merge (.object [(outer, .object [(inner, p)])])) =
      some (((member? [outer, inner] object).getD .null).merge p) := by
  rw [member?_cons, field?_merge_self _ _ (by simp), Option.bind_some, member?_singleton, field?_merge_self _ _ solid,
    field?_getD, member?_cons]
  cases object.field? outer with
  | none => rfl
  | some value => rw [Option.bind_some, Option.bind_some, member?_singleton]

theorem text?_congr {other : Json} (same : other.field? name = object.field? name) :
    text? (name :: path) other = text? (name :: path) object := by
  rw [text?, text?, member?_cons, member?_cons, same]

/-! ### Stamps -/

theorem field?_stamped {now : Instant} (other : name ≠ "metadata") :
    (Store.stamped now object).field? name = object.field? name := by
  unfold Store.stamped
  split
  · exact field?_merge_other other
  · exact field?_merge_other other
  · rfl

theorem member?_stamped {now : Instant} (other : name ≠ "creationTimestamp") :
    member? ("metadata" :: name :: path) (Store.stamped now object) = member? ("metadata" :: name :: path) object := by
  have stamps : member? ("metadata" :: name :: path)
      (setMember ["metadata", "creationTimestamp"] (.string (Rfc3339.format now)) object) =
        member? ("metadata" :: name :: path) object := by
    rw [setMember, List.foldr_cons, member?_cons, field?_merge_self _ _ (by simp), Option.bind_some, member?_cons,
      List.foldr_cons, List.foldr_nil, field?_merge_other other, field?_getD, member?_cons]
    cases object.field? "metadata" <;> rfl
  unfold Store.stamped
  split
  · exact stamps
  · exact stamps
  · rfl

/-! ### Selection -/

def carries (labels : Labels) (object : Json) : Bool :=
  labels.all fun label => text? ["metadata", "labels", label.1] object == some label.2

theorem carries_congr {other : Json} {labels : Labels} (same : other.field? "metadata" = object.field? "metadata") :
    carries labels other = carries labels object := by
  simp only [carries, text?_congr same]

theorem isSelected_eq {selector : String} :
    Store.isSelected selector object = carries (Store.selected selector) object := rfl

end Rehearsal

namespace Cluster

variable {c : Cluster}

theorem selected_selector (plain : ',' ∉ c.name.toList) :
    Store.selected c.selector = [(instanceLabel, c.name), (managedByLabel, managedBy)] := by
  have text : c.selector.toList =
      (instanceLabel.toList ++ '=' :: c.name.toList) ++ ',' :: (managedByLabel.toList ++ '=' :: managedBy.toList) := by
    simp [selector]
  have own : ',' ∉ instanceLabel.toList ++ '=' :: c.name.toList := by
    rw [List.mem_append, List.mem_cons, not_or, not_or]
    exact ⟨by decide, by decide, plain⟩
  have managed : ',' ∉ managedByLabel.toList ++ '=' :: managedBy.toList := by decide
  rw [Store.selected, text, Text.splitAll_append own, Text.splitAll_of_not_mem managed]
  have first : Text.splitFirst? '=' (instanceLabel.toList ++ '=' :: c.name.toList) =
      some (instanceLabel.toList, c.name.toList) := Text.splitFirst?_append (by decide)
  have second : Text.splitFirst? '=' (managedByLabel.toList ++ '=' :: managedBy.toList) =
      some (managedByLabel.toList, managedBy.toList) := Text.splitFirst?_append (by decide)
  simp [first, second]

/-- The text of a selector selects the documents that carry the labels of the cluster, and no others. -/
theorem isSelected_selector (plain : ',' ∉ c.name.toList) {object : Json} :
    Store.isSelected c.selector object = carries c.labels object := by
  rw [isSelected_eq, selected_selector plain]
  simp [carries, labels, Bool.and_comm]

end Cluster

end BrokerFleet
