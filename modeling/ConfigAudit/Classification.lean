/-!
# The words of a result

The closed choices by which results are classified, each with the names under which documents
write its alternatives. Severities are ordered, and so are verdicts.
-/

namespace ConfigAudit

/-- A closed choice whose alternatives have names. -/
class Choice (Alternative : Type) where
  /-- Every alternative, in the order in which diagnostics list them. -/
  all : List Alternative
  name : Alternative → String

namespace Choice

/-- The alternative with a name. -/
def ofName? {Alternative : Type} [Choice Alternative] (name : String) : Option Alternative :=
  (all : List Alternative).find? fun alternative => Choice.name alternative == name

end Choice

/-- How grave a failure is. -/
inductive Severity where
  | info
  | warning
  | error
deriving DecidableEq, Repr, Inhabited

namespace Severity

/-- The position in the order of gravity. -/
def rank : Severity → Nat
  | info => 0
  | warning => 1
  | error => 2

/-- The name in documents. -/
def name : Severity → String
  | info => "info"
  | warning => "warning"
  | error => "error"

instance : Choice Severity := ⟨[info, warning, error], name⟩

instance : LE Severity := ⟨fun left right => left.rank ≤ right.rank⟩

instance (left right : Severity) : Decidable (left ≤ right) :=
  inferInstanceAs (Decidable (left.rank ≤ right.rank))

end Severity

/-- The subject of a rule. -/
inductive Category where
  | networking
  | encryption
  | identity
  | logging
  | backupAndRecovery
  | generalSecurity
deriving DecidableEq, Repr, Inhabited

namespace Category

/-- The name in documents. -/
def name : Category → String
  | networking => "NETWORKING"
  | encryption => "ENCRYPTION"
  | identity => "IDENTITY"
  | logging => "LOGGING"
  | backupAndRecovery => "BACKUP_AND_RECOVERY"
  | generalSecurity => "GENERAL_SECURITY"

instance : Choice Category :=
  ⟨[networking, encryption, identity, logging, backupAndRecovery, generalSecurity], name⟩

end Category

/-- What a rule says of a resource. A skipped resource was not evaluated; an unknown outcome means
that the rule itself broke down. -/
inductive Outcome where
  | passed
  | failed
  | skipped
  | unknown
deriving DecidableEq, Repr, Inhabited

namespace Outcome

/-- The name in documents. -/
def name : Outcome → String
  | passed => "PASSED"
  | failed => "FAILED"
  | skipped => "SKIPPED"
  | unknown => "UNKNOWN"

instance : Choice Outcome := ⟨[passed, failed, skipped, unknown], name⟩

end Outcome

/-- The answer to a whole run. -/
inductive Verdict where
  | pass
  | warn
  | fail
deriving DecidableEq, Repr, Inhabited

namespace Verdict

/-- The position in the order from good to bad. -/
def rank : Verdict → Nat
  | pass => 0
  | warn => 1
  | fail => 2

/-- The name in documents. -/
def name : Verdict → String
  | pass => "pass"
  | warn => "warn"
  | fail => "fail"

instance : Choice Verdict := ⟨[pass, warn, fail], name⟩

instance : LE Verdict := ⟨fun left right => left.rank ≤ right.rank⟩

instance (left right : Verdict) : Decidable (left ≤ right) :=
  inferInstanceAs (Decidable (left.rank ≤ right.rank))

end Verdict

end ConfigAudit
