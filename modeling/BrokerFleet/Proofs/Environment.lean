import BrokerFleet.Cluster.PodTemplate
import Mathlib.Data.List.Nodup

/-!
The environment of the broker container. A variable of the user takes the place of every one of its name, so that each
name is there once: the variables of the operator whose names the user leaves alone, as they are and in their order, and
after them the last that the user says of each name.
-/

namespace BrokerFleet

open Json Kubernetes

/-- The entries that no later one shares its name with, in their order. -/
def lastOfName : List EnvVar → List EnvVar
  | [] => []
  | v :: rest => if ∃ w ∈ rest, w.name = v.name then lastOfName rest else v :: lastOfName rest

variable {v : EnvVar} {user env l : List EnvVar} {name : String}

theorem lastOfName_sublist : (lastOfName l).Sublist l := by
  induction l with
  | nil => exact .slnil
  | cons v rest ih =>
      unfold lastOfName
      split
      · exact ih.cons v
      · exact ih.cons_cons v

theorem lastOfName_distinct : ((lastOfName l).map (·.name)).Nodup := by
  induction l with
  | nil => exact .nil
  | cons v rest ih =>
      unfold lastOfName
      split
      · exact ih
      · next alone =>
        refine List.nodup_cons.mpr ⟨fun again => alone ?_, ih⟩
        obtain ⟨w, later, named⟩ := List.mem_map.mp again
        exact ⟨w, lastOfName_sublist.mem later, named⟩

theorem mem_lastOfName (last : (l.filter (·.name == name)).getLast? = some v) : v ∈ lastOfName l := by
  induction l with
  | nil => cases last
  | cons w rest ih =>
      have kept : v ∈ lastOfName rest → v ∈ lastOfName (w :: rest) := by
        intro among
        unfold lastOfName
        split
        · exact among
        · exact List.mem_cons_of_mem _ among
      rw [List.filter_cons] at last
      split at last
      · next named =>
        rw [List.getLast?_cons] at last
        cases later : (rest.filter (·.name == name)).getLast? with
        | some x =>
            rw [later] at last
            exact kept (ih (later.trans last))
        | none =>
            rw [later] at last
            cases last
            have alone : ¬ ∃ x ∈ rest, x.name = w.name := by
              rintro ⟨x, among, same⟩
              have none := List.filter_eq_nil_iff.mp (List.getLast?_eq_none_iff.mp later) x among
              rw [same] at none
              exact none named
            rw [lastOfName, if_neg alone]
            exact List.mem_cons_self
      · exact kept (ih last)

theorem filter_name_of_mem (distinct : (l.map (·.name)).Nodup) (member : v ∈ l) :
    l.filter (·.name == v.name) = [v] := by
  induction l with
  | nil => cases member
  | cons w rest ih =>
      obtain ⟨apart, distinct⟩ := List.nodup_cons.mp distinct
      rw [List.filter_cons]
      rcases List.mem_cons.mp member with rfl | later
      · rw [if_pos (beq_self_eq_true _)]
        congr 1
        refine List.filter_eq_nil_iff.mpr fun x among named => apart ?_
        exact List.mem_map.mpr ⟨x, among, beq_iff_eq.mp named⟩
      · rw [if_neg, ih distinct later]
        intro named
        exact apart (List.mem_map.mpr ⟨v, later, (beq_iff_eq.mp named).symm⟩)

namespace Cluster

/-- The variables whose names the user does not use. -/
def unused (user env : List EnvVar) : List EnvVar :=
  env.filter fun v => ∀ u ∈ user, u.name ≠ v.name

theorem foldl_overlay : user.foldl overlay env = unused user env ++ lastOfName user := by
  induction user generalizing env with
  | nil => simp [unused, lastOfName]
  | cons u rest ih =>
      have kept : unused rest (env.filter (·.name != u.name)) = unused (u :: rest) env := by
        unfold unused
        rw [List.filter_filter]
        refine List.filter_congr fun v _ => ?_
        rw [Bool.eq_iff_iff]
        simp only [Bool.and_eq_true, decide_eq_true_eq, bne_iff_ne, List.forall_mem_cons]
        rw [and_comm, ne_comm]
      -- The entry that was put in last stays only if no later one has its name.
      have last : unused rest [u] ++ lastOfName rest = lastOfName (u :: rest) := by
        rw [unused, lastOfName, List.filter_cons, List.filter_nil]
        by_cases again : ∃ w ∈ rest, w.name = u.name
        · rw [if_pos again, if_neg fun alone => ?_]
          · rfl
          · obtain ⟨w, later, same⟩ := again
            exact of_decide_eq_true alone w later same
        · have alone : ∀ w ∈ rest, w.name ≠ u.name := fun w later same => again ⟨w, later, same⟩
          rw [if_neg again, if_pos (decide_eq_true alone)]
          rfl
      rw [List.foldl_cons, ih, overlay]
      unfold unused at kept last ⊢
      rw [List.filter_append, List.append_assoc, kept, last]

theorem operatorEnv_distinct (c : Cluster) (ns : String) : ((c.operatorEnv ns).map (·.name)).Nodup := by
  have names : (c.operatorEnv ns).map (·.name) = ["POD_NAME", "BROKER_NODE__NAME", "BROKER_CLUSTER__DISCOVERY_STRATEGY",
      "BROKER_CLUSTER__DNS__NAME", "BROKER_CLUSTER__DNS__RECORD_TYPE", "BROKER_DASHBOARD__LISTENERS__HTTP__BIND",
      "BROKER_API_KEY__BOOTSTRAP_FILE"] := rfl
  rw [names]
  decide +kernel

theorem env_distinct (c : Cluster) (ns : String) : ((c.env ns).map (·.name)).Nodup := by
  rw [env, foldl_overlay, List.map_append]
  refine List.nodup_append.mpr ⟨?_, lastOfName_distinct, ?_⟩
  · exact (operatorEnv_distinct c ns).sublist (List.filter_sublist.map _)
  · intro name left other right same
    obtain ⟨v, kept, rfl⟩ := List.mem_map.mp left
    obtain ⟨u, used, rfl⟩ := List.mem_map.mp right
    exact of_decide_eq_true (List.mem_filter.mp kept).2 u (lastOfName_sublist.mem used) same.symm

theorem env_of_unused {c : Cluster} {ns : String} (set : v ∈ c.operatorEnv ns)
    (free : ∀ u ∈ c.spec.env, u.name ≠ v.name) : (c.env ns).filter (·.name == v.name) = [v] := by
  have member : v ∈ c.env ns := by
    rw [env, foldl_overlay]
    exact List.mem_append_left _ (List.mem_filter.mpr ⟨set, decide_eq_true free⟩)
  exact filter_name_of_mem (c.env_distinct ns) member

end Cluster

/-- The template has one container, the broker's, with that environment. -/
def PodTemplate.RunsWith (t : PodTemplate) (env : List EnvVar) : Prop :=
  ∃ container, t.spec.field? "containers" = some (.array [container]) ∧
    container.field? "name" = some (.string "broker") ∧ container.field? "env" = some (.array (env.map toJson))

namespace Cluster

theorem podTemplate_runsWith {c : Cluster} {ns : String} (placed : c.ns? = some ns) :
    ∃ template, c.podTemplate? = some template ∧ template.RunsWith (c.env ns) := by
  refine ⟨⟨c.labels, c.podSpec ns⟩, ?_, c.container ns, ?_, ?_, ?_⟩
  · rw [podTemplate?, placed, Option.map_some]
  · unfold podSpec
    cases c.spec.affinity <;> rfl
  · unfold container
    cases c.spec.pullPolicy <;> rfl
  · rfl

/-- Of each name that the user uses, the last entry stands in the container, after the variables of the operator that
have other names; and it stands there alone. -/
theorem user_variables_win {c : Cluster} {ns : String} (placed : c.ns? = some ns) :
    ∃ template env, c.podTemplate? = some template ∧ template.RunsWith env ∧
      env = unused c.spec.env (c.operatorEnv ns) ++ lastOfName c.spec.env ∧
      (env.map (·.name)).Nodup ∧
      (∀ name v, (c.spec.env.filter (·.name == name)).getLast? = some v → env.filter (·.name == name) = [v]) ∧
      ∀ v ∈ c.operatorEnv ns, (∀ u ∈ c.spec.env, u.name ≠ v.name) → env.filter (·.name == v.name) = [v] := by
  obtain ⟨template, made, runs⟩ := podTemplate_runsWith placed
  have parts : c.env ns = unused c.spec.env (c.operatorEnv ns) ++ lastOfName c.spec.env := foldl_overlay
  refine ⟨template, c.env ns, made, runs, parts, c.env_distinct ns, fun name v last => ?_, fun v set free => ?_⟩
  · have named : v.name = name := by
      have found := List.mem_of_getLast? last
      exact beq_iff_eq.mp (List.mem_filter.mp found).2
    have member : v ∈ c.env ns := by
      rw [parts]
      exact List.mem_append_right _ (mem_lastOfName last)
    rw [← named]
    exact filter_name_of_mem (c.env_distinct ns) member
  · exact env_of_unused set free

def overlaidCluster : Cluster where
  metadata := ⟨some "broker", none, some "default", none, none, none, none, none, none, none, none, []⟩
  spec := ⟨.enterprise, "broker:1", none, none, 1, none,
    [.plain "LOG_LEVEL" "info", .plain "POD_NAME" "broker", .plain "LOG_LEVEL" "debug",
      .plain "BROKER_CLUSTER__DISCOVERY_STRATEGY" "static"],
    none, none, none, none, none, 18083, ⟨0, default⟩⟩
  status := none

theorem overlaid_once : overlaidCluster.ns? = some "default" ∧
    ∃ template env, overlaidCluster.podTemplate? = some template ∧ template.RunsWith env ∧
      env.map (·.name) = ["BROKER_NODE__NAME", "BROKER_CLUSTER__DNS__NAME", "BROKER_CLUSTER__DNS__RECORD_TYPE",
        "BROKER_DASHBOARD__LISTENERS__HTTP__BIND", "BROKER_API_KEY__BOOTSTRAP_FILE", "POD_NAME", "LOG_LEVEL",
        "BROKER_CLUSTER__DISCOVERY_STRATEGY"] ∧
      env.filter (·.name == "LOG_LEVEL") = [.plain "LOG_LEVEL" "debug"] := by
  have placed : overlaidCluster.ns? = some "default" := rfl
  obtain ⟨template, env, made, runs, parts, -, last, -⟩ := user_variables_win placed
  refine ⟨placed, template, env, made, runs, ?_, last "LOG_LEVEL" (.plain "LOG_LEVEL" "debug") rfl⟩
  rw [parts]
  decide +kernel

end Cluster

end BrokerFleet
