import ConfigAudit.Report.Basic

/-!
# Reports in Markdown

A page shows the verdict, the figures, and the results that somebody has to look at: the failures,
and what could not be evaluated. Everything else only counts.
-/

namespace ConfigAudit

/-- A result on a page. -/
structure PageResult where
  severity : Severity
  outcome : Outcome
  ruleId : String
  ruleName : String
  category : String
  address : String
  message : Option String
deriving DecidableEq, Repr, Inhabited

/-- The figures on a page. -/
structure PageData where
  profile : String
  resourcesScanned : UInt32
  rulesLoaded : UInt32
  counts : OutcomeCounts
  /-- Why the run is not a full one. -/
  incompleteReason : Option String
deriving DecidableEq, Repr, Inhabited

/-- What a page shows. -/
structure Page where
  verdict : Verdict
  results : List PageResult
  data : PageData
deriving DecidableEq, Repr, Inhabited

namespace Page

/-- The word for a verdict. -/
def verdictWord : Verdict → String
  | .pass => "PASS"
  | .warn => "WARN"
  | .fail => "FAIL"

/-- The word for a severity. -/
def severityWord : Severity → String
  | .info => "INFO"
  | .warning => "WARN"
  | .error => "ERROR"

/-- The text of a figure. -/
def figure (value : UInt32) : String :=
  Numeral.text value.toNat

/-- The heading and the figures. -/
def header (page : Page) : String :=
  "# Guardrail report\n\n" ++
    "- Verdict: **" ++ verdictWord page.verdict ++ "**\n" ++
    "- Profile: `" ++ page.data.profile ++ "`\n" ++
    "- Resources: " ++ figure page.data.resourcesScanned ++
    " / Rules: " ++ figure page.data.rulesLoaded ++ "\n" ++
    "- Passed: " ++ figure page.data.counts.passed ++
    " / Failed: " ++ figure page.data.counts.failed ++
    " / Skipped: " ++ figure page.data.counts.skipped ++
    " / Unknown: " ++ figure page.data.counts.unknown ++ "\n\n"

/-- The note on a run that is not a full one. -/
def note (page : Page) : String :=
  match page.data.incompleteReason with
  | some reason => "> Note: incomplete run: " ++ reason ++ "\n\n"
  | none => ""

/-- The item of a result. -/
def item (result : PageResult) : String :=
  "- [" ++ severityWord result.severity ++ "] `" ++ result.ruleId ++ "` " ++ result.ruleName ++
    " on `" ++ result.address ++ "` (" ++ result.category ++ ")\n" ++
    match result.message with
    | some message => "  - " ++ message ++ "\n"
    | none => ""

/-- The results with an outcome. -/
def withOutcome (page : Page) (outcome : Outcome) : List PageResult :=
  page.results.filter fun result => result.outcome == outcome

/-- A section with its items, left out if it has none. -/
def sectionOf (title : String) (results : List PageResult) : String :=
  if results.isEmpty then ""
  else "## " ++ title ++ "\n\n" ++ String.join (results.map item) ++ "\n"

/-- The sections for the given failures and breakdowns. -/
def body (failed unknown : List PageResult) : String :=
  if failed.isEmpty && unknown.isEmpty then "No failures.\n"
  else sectionOf "Failures" failed ++ sectionOf "Not evaluated" unknown

/-- The text of a page. -/
def render (page : Page) : String :=
  page.header ++ page.note ++ body (page.withOutcome .failed) (page.withOutcome .unknown)

end Page

namespace Report

/-- A result as the page shows it. -/
def pageResult (result : ResultRecord) : PageResult where
  severity := result.severity
  outcome := result.outcome
  ruleId := result.ruleId
  ruleName := result.ruleName
  category := result.category.name
  address := result.resource.address
  message := result.message

/-- Why the run of a report is not a full one. -/
def incompleteReason (data : ReportData) : Option String :=
  if data.complete then none
  else if data.reasons.isEmpty then some "not every rule was evaluated"
  else some (String.intercalate ", " data.reasons)

/-- The page of a report. -/
def page (report : Report) : Page where
  verdict := report.verdict
  results := report.results.map pageResult
  data :=
    { profile := report.data.profile
      resourcesScanned := report.data.resourcesScanned
      rulesLoaded := report.data.rulesLoaded
      counts := report.data.summary
      incompleteReason := incompleteReason report.data }

/-- The report in Markdown. -/
def markdown (report : Report) : String :=
  report.page.render

end Report

end ConfigAudit
