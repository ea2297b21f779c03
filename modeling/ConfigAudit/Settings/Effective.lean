import ConfigAudit.Rule.Basic

/-!
# Effective settings

The settings that govern a run once the defaults of a profile, a settings file and the command
line have been merged. A rule without a policy of its own is enabled and keeps its severity.
-/

namespace ConfigAudit

/-- The least severity at which a failure fails the run. -/
inductive FailOn where
  | error
  | warning
deriving DecidableEq, Repr, Inhabited

namespace FailOn

/-- The name in documents. -/
def name : FailOn → String
  | error => "error"
  | warning => "warning"

instance : Choice FailOn := ⟨[error, warning], name⟩

end FailOn

/-- The settings of one rule. -/
structure RulePolicy where
  enabled : Bool := true
  /-- The severity in place of the rule's own. -/
  severity : Option Severity := none
  /-- Addresses, or patterns of addresses, that the rule does not judge. -/
  allow : List String := []
deriving DecidableEq, Repr, Inhabited

/-- A set of defaults. -/
inductive Profile where
  /-- Built-in rules keep their severities. -/
  | strict
  /-- Built-in rules have the severity of a warning. -/
  | warn
deriving DecidableEq, Repr, Inhabited

namespace Profile

/-- The name in documents. -/
def name : Profile → String
  | strict => "strict"
  | warn => "warn"

instance : Choice Profile := ⟨[strict, warn], name⟩

/-- The severity of the built-in rules, unless they keep their own. -/
def severity? : Profile → Option Severity
  | strict => none
  | warn => some .warning

end Profile

/-- The settings of a run. -/
structure EffectiveSettings where
  profile : Profile := .strict
  failOn : FailOn := .error
  /-- The number of workers; as many as the machine has to offer if it is not given. -/
  parallelism : Option Nat := none
  /-- The time that one judgement of a rule may take, in milliseconds. -/
  ruleBudget : Option Nat := none
  /-- Rule identifiers in ascending order, each with its policy. -/
  rules : List (String × RulePolicy) := []
deriving DecidableEq, Repr, Inhabited

namespace EffectiveSettings

/-- The policy of a rule. -/
def policy? (settings : EffectiveSettings) (id : String) : Option RulePolicy :=
  settings.rules.lookup id

/-- Whether a rule is part of the run. -/
def isEnabled (settings : EffectiveSettings) (id : String) : Bool :=
  match settings.policy? id with
  | some policy => policy.enabled
  | none => true

/-- The severity that a rule is given. -/
def severity? (settings : EffectiveSettings) (id : String) : Option Severity :=
  (settings.policy? id).bind RulePolicy.severity

end EffectiveSettings

end ConfigAudit
