import ConfigAudit.Report.Basic

/-!
# The log

A rule that could not judge a resource is not only recorded: it is warned of when it happens. The
log writes the warnings to standard error, in a layout of its own and in the order in which the
workers come to them. Whether and how it writes them is for the surroundings to say, so a `Log` is a
parameter. Messages of less weight than a warning are no part of it.
-/

namespace ConfigAudit

/-- A rule could not judge a resource. -/
structure Warning where
  ruleId : String
  address : String
  /-- What went wrong, blank if nothing is known of it. -/
  detail : String
deriving DecidableEq, Repr, Inhabited

/-- The warning that goes with a result. -/
def ResultRecord.warning? (record : ResultRecord) : Option Warning :=
  if record.outcome = .unknown then
    some
      { ruleId := record.ruleId
        address := record.resource.address
        detail := record.message.getD "" }
  else none

/-- The warnings that go with a report, in the order of its results. -/
def Report.warnings (report : Report) : List Warning :=
  report.results.filterMap ResultRecord.warning?

/-- A way to write warnings down, each of them once. -/
structure Log where
  /-- The line for the warning at a position, blank if warnings are turned off. -/
  line : Nat → Warning → String
  /-- The order in which the workers come to warn. -/
  arrange : List Warning → List Warning
  arrange_perm : ∀ warnings, (arrange warnings).Perm warnings

namespace Log

/-- What is written for warnings. -/
def text (log : Log) (warnings : List Warning) : String :=
  String.join <| (log.arrange warnings).zipIdx.map fun (warning, position) =>
    log.line position warning

/-- The log that writes nothing. -/
def off : Log where
  line _ _ := ""
  arrange warnings := warnings
  arrange_perm _ := .rfl

/-- A log with one line for each warning, in the order in which they are told. -/
def plain : Log where
  line _ warning :=
    "WARN rule evaluation faulted rule_id=" ++ warning.ruleId ++ " resource=" ++ warning.address ++
      " detail=\"" ++ warning.detail ++ "\"\n"
  arrange warnings := warnings
  arrange_perm _ := .rfl

end Log

end ConfigAudit
