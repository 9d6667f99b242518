import BrokerFleet.Cluster.Children

/-!
Labels. A label that is set is there and leaves the others as they are; so a generation has the labels of its cluster
besides its hash.
-/

namespace BrokerFleet

open Kubernetes

namespace Kubernetes.Labels

variable {name other value : String} {labels : Labels}

theorem get?_set : (labels.set name value).get? name = some value := by
  induction labels with
  | nil => simp [Labels.set, Labels.get?]
  | cons label rest ih =>
      obtain ⟨k, v⟩ := label
      unfold Labels.set
      split
      · next same => simp [Labels.get?, same]
      · next differ =>
        split
        · simp [Labels.get?]
        · simpa [Labels.get?, differ] using ih

theorem get?_set_other (differ : name ≠ other) : (labels.set name value).get? other = labels.get? other := by
  induction labels with
  | nil => simp [Labels.set, Labels.get?, differ]
  | cons label rest ih =>
      obtain ⟨k, v⟩ := label
      unfold Labels.set
      split
      · next same =>
        have same : k = name := by simpa using same
        simp [Labels.get?, same, differ]
      · split
        · simp [Labels.get?, differ]
        · by_cases here : k = other
          · simp [Labels.get?, here]
          · simpa [Labels.get?, here] using ih

end Kubernetes.Labels

namespace Cluster

variable {c : Cluster} {hash : String} {label : String × String}

theorem generation_labels : Labels.set hashLabel hash c.labels = c.labels ++ [(hashLabel, hash)] := by
  have apart : (managedByLabel == hashLabel) = false ∧ (instanceLabel == hashLabel) = false := by decide
  have before : ¬ hashLabel < managedByLabel ∧ ¬ hashLabel < instanceLabel := by decide
  simp [labels, Labels.set, apart, before]

theorem generation_labels_distinct : ((Labels.set hashLabel hash c.labels).map (·.1)).Nodup := by
  rw [generation_labels]
  show [managedByLabel, instanceLabel, hashLabel].Nodup
  decide

theorem generation_label (member : label ∈ c.labels) :
    (Labels.set hashLabel hash c.labels).get? label.1 = some label.2 := by
  have apart : managedByLabel ≠ instanceLabel := by decide
  rw [generation_labels]
  simp only [labels, List.mem_cons, List.not_mem_nil, or_false] at member
  rcases member with rfl | rfl <;> simp [Labels.get?, labels, apart]

end Cluster

end BrokerFleet
