import ConfigAudit.Proofs.CommandLine.Check

/-!
# The Markdown of a report that was written

The Markdown that a check writes beside its report is the one that is shown when the Markdown of this
report is asked for later: `runUnder_shows_written_markdown`. One is made from the report in memory,
the other from what was read from its file.
-/

namespace ConfigAudit

namespace CommandLine

/-- Arguments that ask to show the Markdown of the report at a path. -/
def AsksForMarkdown (path : String) (arguments : List String) : Prop :=
  ∃ invocation, request arguments = .run invocation ∧ invocation.command = .markdown path none

/-! ## How the path of a report is given -/

theorem request_markdown (arguments : List String) :
    request ("md" :: arguments) = requestOf {} markdownGrammar markdownCommand? arguments := by
  have plain : spell? overviewGrammar "md" = none := rfl
  rw [request, read, if_neg (by decide), plain]
  rfl

/-- A path can be joined to its option whatever it is. -/
theorem spell?_joined (path : String) :
    spell? markdownGrammar ("--report=" ++ path) =
      some (.known ⟨"report", none, .value⟩ (some path)) := by
  have characters : ("--report=" ++ path).toList = "--report=".toList ++ path.toList :=
    String.toList_append
  have split : ("report=".toList ++ path.toList).span (· != '=') =
      ("report".toList, '=' :: path.toList) := by
    rfl
  have spelled : spell? markdownGrammar ("--report=" ++ path) =
      some (.known ⟨"report", none, .value⟩ (some (String.ofList path.toList))) := by
    rw [spell?, characters]
    change some (spellLong markdownGrammar ("report=".toList ++ path.toList)) = _
    rw [spellLong, split]
    rfl
  rw [spelled, String.ofList_toList]

theorem asksForMarkdown_joined (path : String) :
    AsksForMarkdown path ["md", "--report=" ++ path] := by
  have longer : "--report=" ++ path ≠ "--" := by
    intro same
    have characters := congrArg String.toList same
    simp at characters
  refine ⟨⟨standardSettingsPath, none, .markdown path none⟩, ?_, rfl⟩
  rw [request_markdown, requestOf, read, if_neg longer, spell?_joined]
  rfl

/-- A path that does not look like an option can be an argument of its own. -/
theorem asksForMarkdown_separate {path : String} (plain : looksLikeOption path = false) :
    AsksForMarkdown path ["md", "--report", path] := by
  have spelled : spell? markdownGrammar "--report" =
      some (.known ⟨"report", none, .value⟩ none) := by
    rfl
  refine ⟨⟨standardSettingsPath, none, .markdown path none⟩, ?_, rfl⟩
  rw [request_markdown, requestOf, read, if_neg (by decide), spelled]
  dsimp only
  rw [if_neg (by rw [plain]; exact Bool.false_ne_true)]
  rfl

/-! ## Showing what was written -/

variable {clock : Nat → Timestamp} {means : Means} {workspace : Workspace}
  {arguments : List String} {invocation : Invocation} {check : CheckArguments} {path : String}

/-- Whoever asks for the Markdown of the report that a check has written, however the path is given,
is shown what the check has written to the file for it. -/
theorem runUnder_shows_written_markdown (faithful : means.checking.IsFaithful)
    (asked : request arguments = .run invocation) (checks : invocation.command = .check check)
    (wanted : check.markdownPath = some path)
    (apart : FilePath.follow path ≠ FilePath.follow check.reportPath)
    (ended : (runUnder clock means workspace arguments).1.exitCode = 0 ∨
      (runUnder clock means workspace arguments).1.exitCode = 2) :
    ∃ text,
      (runUnder clock means workspace arguments).2.readText path = .ok text ∧
      (∀ laterClock laterMeans laterArguments,
        AsksForMarkdown check.reportPath laterArguments →
          runUnder laterClock laterMeans (runUnder clock means workspace arguments).2
              laterArguments =
            ({ standardOutput := text }, (runUnder clock means workspace arguments).2)) ∧
      AsksForMarkdown check.reportPath ["md", "--report=" ++ check.reportPath] ∧
      (looksLikeOption check.reportPath = false →
        AsksForMarkdown check.reportPath ["md", "--report", check.reportPath]) := by
  have attempts := attempts_tryCheck clock means workspace invocation check
  rw [runUnder_check asked checks] at ended ⊢
  generalize tryCheck (.ofWorkspace clock means) invocation check 0 workspace = attempt
    at attempts ended ⊢
  obtain ⟨⟨⟨warnings, chain | verdict⟩, readings⟩, after⟩ := attempt
  · obtain impossible | impossible := ended <;> exact nomatch impossible
  · obtain ⟨outcome, ⟨_, _, checked⟩, _, _, holds, marked⟩ := attempts.holds (by
      rw [wanted]
      rintro _ ⟨⟩
      exact apart)
    refine ⟨outcome.report.markdown, (marked path wanted).readText, ?_,
      asksForMarkdown_joined check.reportPath, asksForMarkdown_separate⟩
    rintro laterClock laterMeans laterArguments ⟨later, askedLater, shows⟩
    exact runUnder_markdown askedLater shows holds.readText (faithful.parse_report checked)

/-- An account that says nothing fails the rule that the settings leave enabled. The report lies in a
directory that the check makes. -/
theorem runUnder_shows_written_markdown_of_account :
    let tree := Json.render <| .object [("azurerm_storage_account", .array [.object []])]
    let workspace : Workspace := .ofFiles [("t", tree), ("s", "rules.GR_AZURE_002.enabled=false")]
    let arguments :=
      ["--config=s", "check", "--input=t", "--report-out", "out/r", "--write-markdown",
        "--markdown-out=out/m"]
    let clock (readings : Nat) : Timestamp := .ofEpochSeconds readings 0
    let means : Means := { checking := Check.run, log := .plain, wording := .plain }
    let after := (runUnder clock means workspace arguments).2
    (runUnder clock means workspace arguments).1.exitCode = 2 ∧
      ∃ text, after.readText "out/m" = .ok text ∧
        runUnder clock means after ["md", "--report", "out/r"] =
          ({ standardOutput := text }, after) := by
  intro tree workspace arguments clock means after
  have asked : request arguments =
      .run ⟨"s", none, .check ⟨"t", "out/r", some "out/m", none, none⟩⟩ := by
    decide +kernel
  have apart : FilePath.follow "out/m" ≠ FilePath.follow "out/r" := by
    decide +kernel
  have failed : (runUnder clock means workspace arguments).1.exitCode = 2 := by
    decide +kernel
  obtain ⟨text, marked, shown, _, separate⟩ :=
    @runUnder_shows_written_markdown clock means workspace arguments _ _ _ isFaithful_run
      asked rfl rfl apart (.inr failed)
  have plain : looksLikeOption "out/r" = false := by
    decide +kernel
  exact ⟨failed, text, marked, shown clock means _ (separate plain)⟩

end CommandLine

end ConfigAudit
