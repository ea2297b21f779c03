import ConfigAudit.Glob.Parser
import ConfigAudit.Rule.Catalog
import ConfigAudit.Settings.File

/-!
# Merging settings

The command line overrides the settings file, and the file overrides the defaults of a profile,
field by field. Only what takes effect is checked; `resolve` names the first setting that cannot.
-/

namespace ConfigAudit

/-- What the command line says. -/
structure Overrides where
  profile : Option String := none
  parallelism : Option Nat := none
  ruleBudget : Option Nat := none
deriving DecidableEq, Repr, Inhabited

/-- A setting that cannot take effect. -/
inductive SettingsError where
  | unknownProfile (name : String)
  | noWorkers
  | noBudget
  | unknownSeverity (ruleId name : String)
  | malformedPattern (ruleId : String) (error : GlobError)
  | unknownFailOn (name : String)
deriving DecidableEq, Repr

namespace Severity

/-- The severity that a setting names; a warning has a short name too. -/
def ofSetting? (name : String) : Option Severity :=
  if name == "warn" then some .warning else Choice.ofName? name

end Severity

namespace FailOn

/-- The least failing severity that a setting names; a warning has a short name too. -/
def ofSetting? (name : String) : Option FailOn :=
  if name == "warn" then some .warning else Choice.ofName? name

end FailOn

namespace Settings

/-- The profile that a setting names. -/
def chooseProfile (name : Option String) : Except SettingsError Profile :=
  match name with
  | none => .ok .strict
  | some name =>
    match Choice.ofName? name with
    | some profile => .ok profile
    | none => .error (.unknownProfile name)

/-- A number of at least one, if it is given. -/
def choosePositive (refusal : SettingsError) (number : Option Nat) :
    Except SettingsError (Option Nat) :=
  if number = some 0 then .error refusal else .ok number

/-- The severity that is given to a rule. -/
def chooseSeverity (id : String) (name : Option String) :
    Except SettingsError (Option Severity) :=
  match name with
  | none => .ok none
  | some name =>
    match Severity.ofSetting? name with
    | some severity => .ok (some severity)
    | none => .error (.unknownSeverity id name)

/-- Refuse the first pattern that is malformed. -/
def checkPatterns (id : String) (patterns : List String) : Except SettingsError Unit :=
  patterns.forM fun pattern =>
    match Glob.parse pattern with
    | .ok _ => .ok ()
    | .error error => .error (.malformedPattern id error)

/-- The least failing severity. -/
def chooseFailOn (name : Option String) : Except SettingsError FailOn :=
  match name with
  | none => .ok .error
  | some name =>
    match FailOn.ofSetting? name with
    | some failOn => .ok failOn
    | none => .error (.unknownFailOn name)

/-- The policies of the built-in rules under a profile. -/
def presetPolicies (profile : Profile) : List (String × RulePolicy) :=
  Members.ofPairs <|
    Catalog.builtin.map fun rule => (rule.info.id, { severity := profile.severity? })

/-- A policy changed by what a file says of its rule. -/
def mergePolicy (policy : RulePolicy) (id : String) (rule : RuleSettings) :
    Except SettingsError RulePolicy := do
  let severity ← chooseSeverity id rule.severity
  checkPatterns id rule.allow
  pure
    { enabled := rule.enabled.getD policy.enabled
      severity := severity.or policy.severity
      allow := if rule.allow.isEmpty then policy.allow else rule.allow }

/-- Policies changed by what a file says of one rule. -/
def mergeRule (policies : List (String × RulePolicy)) (entry : String × RuleSettings) :
    Except SettingsError (List (String × RulePolicy)) := do
  let policy ← mergePolicy ((policies.lookup entry.1).getD {}) entry.1 entry.2
  pure (Members.insert entry.1 policy policies)

/-- The settings in effect, or the first one that cannot take effect: the profile, the numbers, the
rules in the order of their identifiers, and the least failing severity. -/
def resolve (file : SettingsFile) (overrides : Overrides) :
    Except SettingsError EffectiveSettings := do
  let profile ← chooseProfile (overrides.profile.or file.profile)
  let parallelism ← choosePositive .noWorkers (overrides.parallelism.or file.parallelism)
  let ruleBudget ← choosePositive .noBudget (overrides.ruleBudget.or file.ruleBudget)
  let rules ← file.rules.foldlM mergeRule (presetPolicies profile)
  let failOn ← chooseFailOn file.failOn
  pure { profile, failOn, parallelism, ruleBudget, rules }

end Settings

end ConfigAudit
