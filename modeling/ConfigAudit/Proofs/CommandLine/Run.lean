import ConfigAudit.CommandLine.Run
import ConfigAudit.Proofs.Workspace

/-!
# Commands in a workspace

What a command does in a workspace under a clock, in terms of what can be read there and of
`Workspace.write`. Writing a file does not depend on what else the computation can do:
`FileAccess.writeWithDirectories_lift`.
-/

namespace ConfigAudit

namespace FileAccess

variable {m n : Type → Type} [Monad m] [Monad n] [MonadLift m n] [LawfulMonadLift m n]

theorem ensureDirectory_lift (files : FileAccess m) (path : String) :
    (files.lift : FileAccess n).ensureDirectory path = liftM (files.ensureDirectory path) := by
  simp only [ensureDirectory, lift, liftM_bind]
  refine bind_congr fun result => ?_
  split
  · rw [liftM_bind]
    refine bind_congr fun found => ?_
    split <;> rw [liftM_pure]
  · rw [liftM_pure]

theorem ensureDirectories_lift (files : FileAccess m) (paths : List String) :
    (files.lift : FileAccess n).ensureDirectories paths =
      liftM (files.ensureDirectories paths) := by
  induction paths with
  | nil => rw [ensureDirectories, ensureDirectories, liftM_pure]
  | cons path outer inductionHypothesis =>
    simp only [ensureDirectories, ensureDirectory_lift, inductionHypothesis, liftM_bind]
    refine bind_congr fun result => ?_
    split
    · rw [liftM_bind]
      refine bind_congr fun made => ?_
      split
      · rw [liftM_pure]
      · rfl
    · rw [liftM_pure]

/-- A file is written the same way whatever else a computation can do. -/
theorem writeWithDirectories_lift (files : FileAccess m) (path text : String) :
    (files.lift : FileAccess n).writeWithDirectories path text =
      liftM (files.writeWithDirectories path text) := by
  simp only [writeWithDirectories, ensureDirectories_lift, liftM_bind]
  refine bind_congr fun ensured => ?_
  split
  · rw [liftM_pure]
  · rw [liftM_bind]
    refine bind_congr fun written => ?_
    split <;> rw [liftM_pure]

end FileAccess

namespace CommandLine

variable {Result Rest : Type} {clock : Nat → Timestamp} {means : Means}
  {workspace : Workspace} {arguments : List String} {invocation : Invocation}

/-- A step in a workspace under a clock, and what follows it. -/
theorem bind_readings (step : StateT Nat (StateM Workspace) Result)
    (next : Result → StateT Nat (StateM Workspace) Rest) (readings : Nat)
    (workspace : Workspace) :
    (step >>= next) readings workspace =
      next (step readings workspace).1.1 (step readings workspace).1.2
        (step readings workspace).2 :=
  rfl

/-- Writing a file leaves the clock as it is. -/
theorem writeWithDirectories_ofWorkspace (path text : String) (readings : Nat)
    (workspace : Workspace) :
    (Surroundings.ofWorkspace clock means).files.writeWithDirectories path text readings
        workspace =
      (((workspace.write path text).1, readings), (workspace.write path text).2) := by
  rw [Surroundings.ofWorkspace, FileAccess.writeWithDirectories_lift]
  rfl

/-- The text of the settings file in a workspace. -/
def settingsText (workspace : Workspace) (path : String) : String :=
  match workspace.readText path with
  | .ok text => text
  | .error _ => ""

/-- What is asked for by a check of a tree in a workspace. -/
def checkRequest (workspace : Workspace) (invocation : Invocation) (check : CheckArguments)
    (treeText : String) : CheckRequest where
  treeText := treeText
  settingsText := settingsText workspace invocation.settingsPath
  overrides :=
    { profile := invocation.profile
      parallelism := check.parallelism
      ruleBudget := check.ruleBudget }

theorem readText_ofWorkspace (path : String) (readings : Nat) (workspace : Workspace) :
    (Surroundings.ofWorkspace clock means).files.readText path readings workspace =
      ((workspace.readText path, readings), workspace) :=
  rfl

theorem now_ofWorkspace (readings : Nat) (workspace : Workspace) :
    (Surroundings.ofWorkspace clock means).now readings workspace =
      ((clock readings, readings + 1), workspace) :=
  rfl

theorem readSettings_ofWorkspace (path : String) (readings : Nat) (workspace : Workspace) :
    readSettings (Surroundings.ofWorkspace clock means).files path readings workspace =
      ((settingsText workspace path, readings), workspace) := by
  rw [readSettings, bind_readings, readText_ofWorkspace, settingsText]
  cases workspace.readText path <;> rfl

section

variable (clock : Nat → Timestamp) (means : Means) (workspace : Workspace)
  (invocation : Invocation) (check : CheckArguments)

/-- The tree can be read and the check comes to an outcome, whatever becomes of its report. -/
def Produces (outcome : CheckOutcome) : Prop :=
  ∃ treeText, workspace.readText check.input = .ok treeText ∧
    means.checking (checkRequest workspace invocation check treeText) (clock 0) (clock 1) =
      .ok outcome

/-- What the attempt at a check comes to and the workspace that it leaves: the tree is read, the
check is carried out, and the report and then the Markdown are written. Once the check is carried
out, its warnings are given, whatever becomes of the report. -/
inductive Attempts : Attempt → Workspace → Prop where
  | unreadable {error : FileError} (refused : workspace.readText check.input = .error error) :
    Attempts
      { result := .error ⟨"read configuration tree: " ++ check.input, [error.message]⟩ } workspace
  | unchecked {treeText : String} {error : CheckError}
      (read : workspace.readText check.input = .ok treeText)
      (failed : means.checking (checkRequest workspace invocation check treeText) (clock 0)
        (clock 1) = .error error) :
    Attempts
      { result :=
          .error (error.chainFor means.wording (checkRequest workspace invocation check treeText)) }
      workspace
  | unreported {outcome : CheckOutcome} {chain : CauseChain} {after : Workspace}
      (produced : Produces clock means workspace invocation check outcome)
      (refused : workspace.write check.reportPath outcome.report.render = (.error chain, after)) :
    Attempts
      { warnings := outcome.report.warnings, result := .error (chain.under "write report json") }
      after
  | reported {outcome : CheckOutcome} {after : Workspace}
      (produced : Produces clock means workspace invocation check outcome)
      (wrote : workspace.write check.reportPath outcome.report.render = (.ok (), after))
      (unwanted : check.markdownPath = none) :
    Attempts { warnings := outcome.report.warnings, result := .ok outcome.report.verdict } after
  | unwritten {outcome : CheckOutcome} {path : String} {chain : CauseChain}
      {between after : Workspace}
      (produced : Produces clock means workspace invocation check outcome)
      (wrote : workspace.write check.reportPath outcome.report.render = (.ok (), between))
      (wanted : check.markdownPath = some path)
      (refused : between.write path outcome.report.markdown = (.error chain, after)) :
    Attempts
      { warnings := outcome.report.warnings, result := .error (chain.under "write markdown") }
      after
  | written {outcome : CheckOutcome} {path : String} {between after : Workspace}
      (produced : Produces clock means workspace invocation check outcome)
      (wrote : workspace.write check.reportPath outcome.report.render = (.ok (), between))
      (wanted : check.markdownPath = some path)
      (added : between.write path outcome.report.markdown = (.ok (), after)) :
    Attempts { warnings := outcome.report.warnings, result := .ok outcome.report.verdict } after

end

/-- The attempt at a check in a workspace. -/
theorem attempts_tryCheck (clock : Nat → Timestamp) (means : Means) (workspace : Workspace)
    (invocation : Invocation) (check : CheckArguments) :
    Attempts clock means workspace invocation check
      (tryCheck (.ofWorkspace clock means) invocation check 0 workspace).1.1
      (tryCheck (.ofWorkspace clock means) invocation check 0 workspace).2 := by
  rw [tryCheck, bind_readings, readSettings_ofWorkspace, bind_readings, readText_ofWorkspace]
  cases read : workspace.readText check.input with
  | error error => exact .unreadable read
  | ok treeText =>
    dsimp only
    rw [bind_readings, bind_readings]
    simp only [now_ofWorkspace]
    have given : (Surroundings.ofWorkspace clock means).means = means := rfl
    rw [given, ← checkRequest]
    cases checked :
        means.checking (checkRequest workspace invocation check treeText) (clock 0) (clock 1) with
    | error error => exact .unchecked read checked
    | ok outcome =>
      have produced : Produces clock means workspace invocation check outcome :=
        ⟨treeText, read, checked⟩
      dsimp only
      rw [bind_readings, writeWithDirectories_ofWorkspace]
      rcases wrote : workspace.write check.reportPath outcome.report.render with
        ⟨chain | ⟨⟩, between⟩
      · exact .unreported produced wrote
      · cases wanted : check.markdownPath with
        | none => exact .reported produced wrote wanted
        | some path =>
          dsimp only
          rw [bind_readings, writeWithDirectories_ofWorkspace]
          rcases added : between.write path outcome.report.markdown with ⟨chain | ⟨⟩, after⟩
          · exact .unwritten produced wrote wanted added
          · exact .written produced wrote wanted added

/-- A check that comes to no verdict writes a report that tells why. What its log has written comes
first on standard error. -/
theorem runUnder_check {check : CheckArguments} (asked : request arguments = .run invocation)
    (checks : invocation.command = .check check) :
    runUnder clock means workspace arguments =
      match tryCheck (.ofWorkspace clock means) invocation check 0 workspace with
      | ((⟨warnings, .ok verdict⟩, _), after) =>
        ({ exitCode := Check.exitCode verdict, standardError := means.log.text warnings }, after)
      | ((⟨warnings, .error chain⟩, readings), after) =>
        ({ exitCode := 1
           standardError :=
             means.log.text warnings ++ "guardrail error: " ++ chain.inLine ++ "\n" },
          (after.write check.reportPath
            (Report.ofFailure chain.inLine (clock readings)).render).2) := by
  simp only [runUnder, run, asked, runInvocation, checks, runCheck, StateT.run, bind_readings]
  rcases tryCheck (.ofWorkspace clock means) invocation check 0 workspace with
    ⟨⟨⟨warnings, chain | verdict⟩, readings⟩, after⟩
  · dsimp only
    rw [bind_readings, now_ofWorkspace, bind_readings, writeWithDirectories_ofWorkspace]
    rfl
  · rfl

/-- The Markdown of a report that can be read is shown, and nothing is changed. -/
theorem runUnder_markdown {path text : String} {report : Report}
    (asked : request arguments = .run invocation)
    (shows : invocation.command = .markdown path none)
    (read : workspace.readText path = .ok text) (parsed : Report.parse text = .ok report) :
    runUnder clock means workspace arguments =
      ({ standardOutput := report.markdown }, workspace) := by
  simp only [runUnder, run, asked, runInvocation, shows, runMarkdown, StateT.run, bind_readings,
    readText_ofWorkspace, read, parsed]
  rfl

end CommandLine

end ConfigAudit
