import ConfigAudit.Engine
import ConfigAudit.Proofs.Rule.Catalog
import ConfigAudit.Proofs.Settings.Resolve
import ConfigAudit.Settings.Load

/-!
# The settings by default

Without a settings file and without options on the command line every rule of the catalog is
enabled, keeps its severity and has no allowlist.
-/

namespace ConfigAudit

namespace Settings

/-- The settings that are in effect if nobody says anything. -/
def defaults : EffectiveSettings where
  rules := presetPolicies .strict

/-- A blank text and an empty command line say nothing. -/
theorem load_of_isBlankText {text : String} (blank : Text.isBlankText text = true) :
    load text {} = .ok defaults := by
  rw [load, SettingsFile.read, if_pos blank]
  rfl

theorem policy?_defaults {id : String} {policy : RulePolicy}
    (found : defaults.policy? id = some policy) : policy = {} :=
  policy_of_mem_presetPolicies ((Members.sorted_ofPairs _).lookup_eq_some_iff.1 found)

/-- Rules are selected as they are. -/
theorem select_defaults (rules : List Rule) : Catalog.select defaults rules = rules := by
  have enabled (rule : Rule) : defaults.isEnabled rule.info.id = true := by
    unfold EffectiveSettings.isEnabled
    split
    case h_1 found => rw [policy?_defaults found]
    case h_2 => rfl
  have adjusted : Catalog.adjust defaults = id := by
    funext rule
    have unchanged : defaults.severity? rule.info.id = none := by
      unfold EffectiveSettings.severity?
      cases found : defaults.policy? rule.info.id with
      | none => rfl
      | some policy => rw [policy?_defaults found]; rfl
    rw [Catalog.adjust, unchanged]
    rfl
  rw [Catalog.select, List.filter_eq_self.2 fun rule _ => enabled rule, adjusted, List.map_id]

/-- Policies without patterns give no allowlist. -/
theorem ofPolicies_eq_empty {policies : List (String × RulePolicy)}
    (unlisted : ∀ entry ∈ policies, entry.2.allow = []) :
    Suppressions.ofPolicies policies = .ok .empty := by
  unfold Suppressions.ofPolicies
  induction policies with
  | nil => rfl
  | cons entry policies inductionHypothesis =>
    obtain ⟨first, others⟩ := List.forall_mem_cons.1 unlisted
    have skipped : Suppressions.empty.insert entry.1 entry.2.allow = .ok .empty := by
      rw [first]
      rfl
    rw [List.foldlM_cons, skipped]
    exact inductionHypothesis others

/-- Nothing is suppressed, and no judgement is limited. -/
theorem options_defaults : EngineOptions.ofSettings defaults = .ok {} := by
  have suppressions : Suppressions.ofPolicies defaults.rules = .ok .empty :=
    ofPolicies_eq_empty fun entry member => by rw [policy_of_mem_presetPolicies member]
  rw [EngineOptions.ofSettings, suppressions]
  rfl

end Settings

end ConfigAudit
