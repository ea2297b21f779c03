import ConfigAudit.Settings.Effective
import ConfigAudit.Tree.Basic

/-!
# Result sets

What a run found, one entry for each resource and rule, and the figures and the verdict derived
from it.
-/

namespace ConfigAudit

/-- What one rule says of one resource. -/
structure ResultEntry where
  resource : Resource
  ruleId : String
  ruleName : String
  category : Category
  severity : Severity
  outcome : Outcome
  message : Option String
deriving DecidableEq, Repr

/-- How many results have each outcome. -/
structure OutcomeCounts where
  passed : UInt32 := 0
  failed : UInt32 := 0
  skipped : UInt32 := 0
  unknown : UInt32 := 0
deriving DecidableEq, Repr, Inhabited

namespace OutcomeCounts

/-- Count one more result. -/
def count (counts : OutcomeCounts) : Outcome → OutcomeCounts
  | .passed => { counts with passed := counts.passed + 1 }
  | .failed => { counts with failed := counts.failed + 1 }
  | .skipped => { counts with skipped := counts.skipped + 1 }
  | .unknown => { counts with unknown := counts.unknown + 1 }

/-- The number of results of all outcomes. -/
def total (counts : OutcomeCounts) : UInt32 :=
  counts.passed + counts.failed + counts.skipped + counts.unknown

end OutcomeCounts

/-- The entries of a run in order. The set is complete unless the run was cancelled before its last
entry. -/
structure ResultSet where
  entries : List ResultEntry
  complete : Bool
deriving DecidableEq, Repr

namespace ResultSet

/-- The entries with a property. What is left out does not make the set incomplete. -/
def filter (results : ResultSet) (keep : ResultEntry → Bool) : ResultSet :=
  { results with entries := results.entries.filter keep }

/-- The entries on a subject. -/
def byCategory (results : ResultSet) (category : Category) : ResultSet :=
  results.filter fun entry => entry.category == category

/-- The entries of a severity or a greater one. -/
def atLeast (results : ResultSet) (severity : Severity) : ResultSet :=
  results.filter fun entry => decide (severity ≤ entry.severity)

/-- The entries with an outcome. -/
def withOutcome (results : ResultSet) (outcome : Outcome) : ResultSet :=
  results.filter fun entry => entry.outcome == outcome

/-- The failures. -/
def failures (results : ResultSet) : List ResultEntry :=
  results.entries.filter fun entry => entry.outcome == .failed

/-- The number of entries of each outcome. -/
def summary (results : ResultSet) : OutcomeCounts :=
  results.entries.foldl (fun counts entry => counts.count entry.outcome) {}

/-- Whether there is a failure of a severity. -/
def hasFailure (results : ResultSet) (severity : Severity) : Bool :=
  results.entries.any fun entry => entry.outcome == .failed && entry.severity == severity

/-- Whether a rule broke down. -/
def hasUnknown (results : ResultSet) : Bool :=
  results.entries.any fun entry => entry.outcome == .unknown

/-- The verdict on a run. A failure with the severity of an error fails it, one with that of a
warning if the settings say so; any other failure, a breakdown and an early end only warn. -/
def verdict (results : ResultSet) (failOn : FailOn) : Verdict :=
  if results.hasFailure .error then .fail
  else if results.hasFailure .warning then
    match failOn with
    | .warning => .fail
    | .error => .warn
  else if results.hasFailure .info || results.hasUnknown || !results.complete then .warn
  else .pass

end ResultSet

end ConfigAudit
