import ConfigAudit.Rule.NetworkExposure
import ConfigAudit.Rule.Set
import ConfigAudit.Rule.StorageAccount
import ConfigAudit.Settings.Effective

/-!
# The catalog of rules

The built-in rules, and the rule set that results from a catalog under given settings.
-/

namespace ConfigAudit

namespace Catalog

/-- The built-in rules in their order of registration. -/
def builtin : List Rule :=
  [NetworkExposure.rule, StorageAccount.publicAccessRule, StorageAccount.transportVersionRule]

/-- A rule with the severity that the settings give it. -/
def adjust (settings : EffectiveSettings) (rule : Rule) : Rule :=
  match settings.severity? rule.info.id with
  | some severity => if severity = rule.info.severity then rule else rule.withSeverity severity
  | none => rule

/-- Register a rule as the settings have it. A disabled rule need not be well described. -/
def registerUnder (settings : EffectiveSettings) (set : RuleSet) (rule : Rule) :
    Except RuleSetError RuleSet :=
  if settings.isEnabled rule.info.id then set.register (adjust settings rule) else .ok set

/-- The rule set of a run. -/
def ruleSet (settings : EffectiveSettings) (rules : List Rule) : Except RuleSetError RuleSet :=
  rules.foldlM (registerUnder settings) RuleSet.empty

end Catalog

end ConfigAudit
