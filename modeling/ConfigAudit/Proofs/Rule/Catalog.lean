import ConfigAudit.Proofs.Rule.Set
import ConfigAudit.Rule.Catalog

/-!
# The rule set of a run

Settings choose among the rules of a catalog and change their severities, and nothing else. So the
built-in rules make a rule set under any settings: `Catalog.ruleSet_builtin`.
-/

namespace ConfigAudit

namespace ResourceKinds

theorem includes_ofList_singleton {kind other : String} :
    (ResourceKinds.ofList [kind]).includes other = true ↔ other = kind := by
  have same : (ResourceKinds.ofList [kind]).includes other = [kind].contains other := rfl
  simp [same]

end ResourceKinds

namespace Catalog

variable (settings : EffectiveSettings)

/-- A rule changes in its severity only. -/
theorem adjust_eq_withSeverity (rule : Rule) :
    adjust settings rule =
      rule.withSeverity ((settings.severity? rule.info.id).getD rule.info.severity) := by
  unfold adjust
  cases settings.severity? rule.info.id with
  | none => rfl
  | some severity =>
    by_cases same : severity = rule.info.severity
    · subst same
      exact if_pos rfl
    · exact if_neg same

theorem info_adjust (rule : Rule) :
    (adjust settings rule).info =
      { rule.info with
        severity := (settings.severity? rule.info.id).getD rule.info.severity } := by
  rw [adjust_eq_withSeverity]
  rfl

theorem evaluate_adjust (rule : Rule) : (adjust settings rule).evaluate = rule.evaluate := by
  rw [adjust_eq_withSeverity]
  rfl

theorem cancels_adjust (rule : Rule) : (adjust settings rule).cancels = rule.cancels := by
  rw [adjust_eq_withSeverity]
  rfl

theorem id_adjust (rule : Rule) : (adjust settings rule).info.id = rule.info.id := by
  rw [info_adjust]

theorem flaw?_adjust (rule : Rule) : (adjust settings rule).info.flaw? = rule.info.flaw? := by
  rw [info_adjust]
  rfl

/-- The rules that the settings leave enabled, with their severities. -/
def select (rules : List Rule) : List Rule :=
  (rules.filter fun rule => settings.isEnabled rule.info.id).map (adjust settings)

/-- A run registers the rules that its settings select and passes over the others. -/
theorem ruleSet_eq_ofRules (rules : List Rule) :
    ruleSet settings rules = RuleSet.ofRules (select settings rules) := by
  rw [RuleSet.ofRules, select, List.foldlM_map, List.foldlM_filter]
  rfl

/-- The rule set of a run has the selected rules and a true index. -/
theorem indexed_of_ruleSet {rules : List Rule} {set : RuleSet}
    (built : ruleSet settings rules = .ok set) :
    set.Indexed ∧ set.rules = select settings rules :=
  RuleSet.indexed_of_ofRules (ruleSet_eq_ofRules settings rules ▸ built)

/-- A rule of a run is a rule of the catalog that is enabled, with its severity. -/
theorem mem_select_iff {rules : List Rule} {rule : Rule} :
    rule ∈ select settings rules ↔
      ∃ original ∈ rules, settings.isEnabled original.info.id = true ∧
        adjust settings original = rule := by
  simp [select, and_assoc]

/-- The rules of the catalog that settings let judge a kind of resource. -/
def dueRules (kind : String) : List Rule :=
  builtin.filter fun rule => settings.isEnabled rule.info.id && rule.info.kinds.includes kind

/-- The rules of a run that include a kind are those that are due, with their severities. -/
theorem filter_includes_select (kind : String) :
    ((select settings builtin).filter fun rule => rule.info.kinds.includes kind) =
      (dueRules settings kind).map (adjust settings) := by
  rw [select, List.filter_map, List.filter_filter, dueRules]
  congr 2
  funext rule
  rw [Function.comp_apply, info_adjust, Bool.and_comm]

/-- The identifiers of the rules of a run are some of those of the catalog, in its order. -/
theorem ids_select_sublist (rules : List Rule) :
    ((select settings rules).map (·.info.id)).Sublist (rules.map (·.info.id)) := by
  have ids : (select settings rules).map (·.info.id) =
      (rules.filter fun rule => settings.isEnabled rule.info.id).map (·.info.id) := by
    simp [select, id_adjust]
  rw [ids]
  exact List.filter_sublist.map _

theorem mem_builtin_iff {rule : Rule} :
    rule ∈ builtin ↔
      rule = NetworkExposure.rule ∨ rule = StorageAccount.publicAccessRule ∨
        rule = StorageAccount.transportVersionRule := by
  simp [builtin]

/-- The built-in rules never cancel a run. -/
theorem cancels_of_mem_builtin {rule : Rule} (member : rule ∈ builtin) (attributes : Attributes) :
    rule.cancels attributes = false := by
  rcases mem_builtin_iff.1 member with rfl | rfl | rfl <;> rfl

theorem flaw?_of_mem_builtin : ∀ rule ∈ builtin, rule.info.flaw? = none := by
  decide +kernel

theorem nodup_ids_builtin : (builtin.map (·.info.id)).Nodup := by
  decide

/-- The rules of a catalog without defects make a rule set under any settings. -/
theorem ruleSet_eq_ok {rules : List Rule} (flawless : ∀ rule ∈ rules, rule.info.flaw? = none)
    (distinct : (rules.map (·.info.id)).Nodup) :
    ruleSet settings rules =
      .ok ((select settings rules).foldl RuleSet.append RuleSet.empty) := by
  rw [ruleSet_eq_ofRules]
  refine RuleSet.ofRules_eq_ok ?_ (distinct.sublist (ids_select_sublist settings rules))
  intro rule member
  obtain ⟨original, ofCatalog, _, rfl⟩ := (mem_select_iff settings).1 member
  rw [flaw?_adjust, flawless original ofCatalog]

/-- The built-in rules make a rule set under any settings. -/
theorem ruleSet_builtin :
    ruleSet settings builtin =
      .ok ((select settings builtin).foldl RuleSet.append RuleSet.empty) :=
  ruleSet_eq_ok settings flaw?_of_mem_builtin nodup_ids_builtin

end Catalog

end ConfigAudit
