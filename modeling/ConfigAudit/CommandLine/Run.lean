import ConfigAudit.Check
import ConfigAudit.CommandLine.Help
import ConfigAudit.Log
import ConfigAudit.Report.Decode
import ConfigAudit.Report.Encode
import ConfigAudit.Report.Markdown
import ConfigAudit.Rule.Explanation
import ConfigAudit.Rule.Listing
import ConfigAudit.Workspace

/-!
# Running a command

What a command does to files, what it shows, and its exit code. A check leaves a report whatever
happens: if it fails, the report tells of the failure. The log of a check is written to standard
error while the check is carried out, so it stands before what the command itself has to say there.
-/

namespace ConfigAudit

namespace CommandLine

/-- What is left of a command: its exit code and what was written to the terminal, the log included. -/
structure Ending where
  exitCode : Nat := 0
  standardOutput : String := ""
  standardError : String := ""
deriving DecidableEq, Repr, Inhabited

namespace Ending

/-- The end of a command that cannot do its work. -/
def failure (chain : CauseChain) : Ending where
  exitCode := 1
  standardError := "Error: " ++ chain.overLines ++ "\n"

/-- The end of a command whose arguments cannot be understood. -/
def misuse : Ending where
  exitCode := 2
  standardError := "usage"

end Ending

/-- A way to carry out a check between two points in time: `Check.run`, or that of workers whose
judgements can take too long. -/
abbrev Checking : Type :=
  CheckRequest → (startedAt finishedAt : Timestamp) → Except CheckError CheckOutcome

/-- What a command works with wherever it runs. -/
structure Means where
  checking : Checking
  log : Log
  /-- What is said of a text that is not of its format. -/
  wording : Wording

/-- What a command needs from the world: files, the time, and the means to work with. -/
structure Surroundings (m : Type → Type) where
  files : FileAccess m
  now : m Timestamp
  means : Means

/-- What the attempt at a check has come to, and the warnings that were given on the way. -/
structure Attempt where
  warnings : List Warning := []
  result : Except CauseChain Verdict

section

variable {m : Type → Type} [Monad m]

/-- The text of a settings file, blank if it cannot be read. -/
def readSettings (files : FileAccess m) (path : String) : m String := do
  match ← files.readText path with
  | .ok text => pure text
  | .error _ => pure ""

/-- Check, and write the report and, if it is asked for, its Markdown. -/
def tryCheck (surroundings : Surroundings m) (invocation : Invocation)
    (arguments : CheckArguments) : m Attempt := do
  let files := surroundings.files
  let settingsText ← readSettings files invocation.settingsPath
  match ← files.readText arguments.input with
  | .error error =>
    pure { result := .error ⟨"read configuration tree: " ++ arguments.input, [error.message]⟩ }
  | .ok treeText =>
    let request : CheckRequest :=
      { treeText
        settingsText
        overrides :=
          { profile := invocation.profile
            parallelism := arguments.parallelism
            ruleBudget := arguments.ruleBudget } }
    let startedAt ← surroundings.now
    let finishedAt ← surroundings.now
    match surroundings.means.checking request startedAt finishedAt with
    | .error error =>
      pure { result := .error (error.chainFor surroundings.means.wording request) }
    | .ok outcome =>
      let warnings := outcome.report.warnings
      match ← files.writeWithDirectories arguments.reportPath outcome.report.render with
      | .error chain => pure { warnings, result := .error (chain.under "write report json") }
      | .ok () =>
        match arguments.markdownPath with
        | none => pure { warnings, result := .ok outcome.report.verdict }
        | some path =>
          match ← files.writeWithDirectories path outcome.report.markdown with
          | .error chain => pure { warnings, result := .error (chain.under "write markdown") }
          | .ok () => pure { warnings, result := .ok outcome.report.verdict }

/-- Check, and report a failure of the check itself. -/
def runCheck (surroundings : Surroundings m) (invocation : Invocation)
    (arguments : CheckArguments) : m Ending := do
  let attempt ← tryCheck surroundings invocation arguments
  let logged := surroundings.means.log.text attempt.warnings
  match attempt.result with
  | .ok verdict => pure { exitCode := Check.exitCode verdict, standardError := logged }
  | .error chain =>
    let time ← surroundings.now
    let report := Report.ofFailure chain.inLine time
    let _ ← surroundings.files.writeWithDirectories arguments.reportPath report.render
    pure
      { exitCode := 1
        standardError := logged ++ "guardrail error: " ++ chain.inLine ++ "\n" }

/-- The chain of causes for a text that is no report, up to what the reader of a text says. -/
def reportFailure : ReportError → CauseChain
  | .malformed => ⟨"parse report json", []⟩
  | .foreignSchema schema => ⟨"unknown report schema: " ++ schema, []⟩
  | .mismatch error => ⟨"parse guardrail report", error.message?.toList⟩

/-- The text that a reader refuses, if that is why a text is no report. -/
def refusedInReport? (text : String) : ReportError → Option RefusedText
  | .malformed => some (.json text)
  | .mismatch (.malformedTimestamp value) => some (.timestamp value)
  | .foreignSchema _ | .mismatch _ => none

/-- Write or show the Markdown of a report. -/
def runMarkdown (surroundings : Surroundings m) (path : String) (output : Option String) :
    m Ending := do
  let files := surroundings.files
  match ← files.readText path with
  | .error error => pure (.failure ⟨"read report: " ++ path, [error.message]⟩)
  | .ok text =>
    match Report.parse text with
    | .error error =>
      let refused := refusedInReport? text error
      pure (.failure ((reportFailure error).endingIn surroundings.means.wording refused))
    | .ok report =>
      match output with
      | none => pure { standardOutput := report.markdown }
      | some path =>
        match ← files.writeWithDirectories path report.markdown with
        | .error chain => pure (.failure (chain.under "write markdown output"))
        | .ok () => pure {}

/-- Show the explanation of a rule. -/
def runExplain (ruleId : String) : Ending :=
  match Explanation.ofRule? ruleId with
  | some explanation => { standardOutput := explanation.render }
  | none => { exitCode := 1, standardError := Explanation.renderUnknown ruleId }

/-- Show the rules of the catalog. -/
def runRules (surroundings : Surroundings m) (invocation : Invocation) : m Ending := do
  let settingsText ← readSettings surroundings.files invocation.settingsPath
  match RuleListing.load settingsText { profile := invocation.profile } with
  | .error fault => pure (.failure (fault.chainFor surroundings.means.wording settingsText))
  | .ok listings => pure { standardOutput := RuleListing.render listings }

/-- Run the command of an invocation. -/
def runInvocation (surroundings : Surroundings m) (invocation : Invocation) : m Ending :=
  match invocation.command with
  | .check arguments => runCheck surroundings invocation arguments
  | .markdown report output => runMarkdown surroundings report output
  | .explain ruleId => pure (runExplain ruleId)
  | .rules => runRules surroundings invocation

/-- Do what the arguments of the command line ask for. -/
def run (surroundings : Surroundings m) (arguments : List String) : m Ending :=
  match request arguments with
  | .run invocation => runInvocation surroundings invocation
  | .help topic => pure { standardOutput := helpText topic }
  | .version => pure { standardOutput := versionText }
  | .misuse => pure .misuse

end

/-- The surroundings of a workspace. The clock shows one time after the other, so the state holds
how often it was read. -/
def Surroundings.ofWorkspace (clock : Nat → Timestamp) (means : Means) :
    Surroundings (StateT Nat (StateM Workspace)) where
  files := Workspace.access.lift
  now := fun readings => pure (clock readings, readings + 1)
  means := means

/-- Run a command in a workspace under a clock. -/
def runUnder (clock : Nat → Timestamp) (means : Means) (workspace : Workspace)
    (arguments : List String) : Ending × Workspace :=
  let ((ending, _), after) := ((run (.ofWorkspace clock means) arguments).run 0).run workspace
  (ending, after)

/-- Run a command in a workspace at a given time with the log turned off. -/
def runIn (workspace : Workspace) (time : Timestamp) (arguments : List String) :
    Ending × Workspace :=
  runUnder (fun _ => time) { checking := Check.run, log := .off, wording := .plain } workspace
    arguments

end CommandLine

end ConfigAudit
