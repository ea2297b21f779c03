import ConfigAudit.ResultSet
import ConfigAudit.Timestamp

/-!
# Reports

The record of a run that is kept: which tool ran when, what every rule said of every resource, and
the verdict. A failure of the tool itself is reported in the same form.
-/

namespace ConfigAudit

/-- The tool that made a report. -/
structure Tool where
  name : String
  version : String
deriving DecidableEq, Repr, Inhabited

/-- A resource in a report. -/
structure ResourceRecord where
  kind : String
  /-- The position among the instances of the kind. -/
  index : UInt32
  name : Option String
  address : String
deriving DecidableEq, Repr, Inhabited

/-- A result in a report. -/
structure ResultRecord where
  ruleId : String
  ruleName : String
  category : Category
  severity : Severity
  outcome : Outcome
  resource : ResourceRecord
  message : Option String
  fingerprint : Option String
deriving DecidableEq, Repr, Inhabited

/-- The figures of a report. -/
structure ReportData where
  profile : String
  resourcesScanned : UInt32
  rulesLoaded : UInt32
  /-- Whether every item was looked at. -/
  complete : Bool
  summary : OutcomeCounts
  /-- Why the run is not a full one. -/
  reasons : List String
deriving DecidableEq, Repr, Inhabited

/-- A report. -/
structure Report where
  /-- The name of the form in which the report is written. -/
  schema : String
  tool : Tool
  startedAt : Timestamp
  finishedAt : Timestamp
  verdict : Verdict
  results : List ResultRecord
  data : ReportData
deriving DecidableEq, Repr, Inhabited

namespace Report

/-- The form that is written and read. -/
def currentSchema : String := "guardrail.report.v1"

/-- The tool of this library. -/
def ownTool : Tool := ⟨"guardrail", "0.1.0"⟩

/-- The report of a failure of the tool itself: one failed result with the failure as its
message. -/
def ofFailure (message : String) (time : Timestamp) : Report where
  schema := currentSchema
  tool := ownTool
  startedAt := time
  finishedAt := time
  verdict := .fail
  results :=
    [{ ruleId := "tool.runtime"
       ruleName := "guardrail runtime"
       category := .generalSecurity
       severity := .error
       outcome := .failed
       resource := { kind := "tool", index := 0, name := none, address := "tool" }
       message := some message
       fingerprint := none }]
  data :=
    { profile := "unknown"
      resourcesScanned := 0
      rulesLoaded := 0
      complete := false
      summary := { failed := 1 }
      reasons := ["tool_error"] }

end Report

end ConfigAudit
