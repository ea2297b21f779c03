import ConfigAudit.Proofs.Check.Outcomes

/-!
# How a check fails

There are four stages at which a check can fail: reading the settings file, merging the settings,
reading the tree as JSON, and making a tree of it. `Check.Fails` tells what is wrong at each of
them, and the check comes to the first error in their order. The stages that follow cannot fail:
the built-in rules make a rule set under any settings, settings that can take effect have no
malformed pattern, and a run always ends with results.
-/

namespace ConfigAudit

namespace SettingsFile

/-- Only a text that is not blank can be unreadable. -/
theorem read_eq_error_iff {text : String} {error : SettingsFileError} :
    read text = .error error ↔ Text.isBlankText text = false ∧ parse text = .error error := by
  unfold read
  cases Text.isBlankText text <;> simp

end SettingsFile

namespace CheckRequest

/-- The allowlists under the settings of a request compile if their patterns can be read. -/
def GlobSetsCompile (request : CheckRequest) : Prop :=
  ∀ settings, Settings.load request.settingsText request.overrides = .ok settings →
    settings.GlobSetsCompile

end CheckRequest

namespace Check

/-- A stage at which a check can fail. -/
inductive Stage where
  /-- Reading the settings file. -/
  | settingsText
  /-- Merging the settings. -/
  | settings
  /-- Reading the tree as JSON. -/
  | treeText
  /-- Making a tree of it. -/
  | tree
deriving DecidableEq, Repr

namespace Stage

/-- The place of a stage in the order of the stages. -/
def rank : Stage → Nat
  | settingsText => 0
  | settings => 1
  | treeText => 2
  | tree => 3

/-- What could not be done if a check fails at a stage. -/
def headline : Stage → String
  | settingsText => "parse config"
  | settings => "resolve config"
  | treeText => "parse configuration tree json"
  | tree => "validate configuration tree"

theorem eq_of_rank_eq {stage other : Stage} (same : stage.rank = other.rank) : stage = other := by
  cases stage <;> cases other <;> first | rfl | cases same

end Stage

/-- What is wrong with a request at a stage, whatever is wrong with the rest of it. Settings are
merged only if the settings file can be read, and a tree is made only of JSON. -/
inductive Fails (request : CheckRequest) : Stage → CheckError → Prop where
  | settingsText {error : SettingsFileError}
      (notBlank : Text.isBlankText request.settingsText = false)
      (malformed : SettingsFile.parse request.settingsText = .error error) :
      Fails request .settingsText (.settings (.unreadable error))
  | settings {file : SettingsFile} {error : SettingsError}
      (read : SettingsFile.read request.settingsText = .ok file)
      (refused : Settings.resolve file request.overrides = .error error) :
      Fails request .settings (.settings (.unresolvable error))
  | treeText (malformed : Json.parse? request.treeText = none) :
      Fails request .treeText .treeText
  | tree {document : Json} {error : TreeError}
      (parsed : Json.parse? request.treeText = some document)
      (refused : Tree.ofJson document = .error error) :
      Fails request .tree (.treeShape error)

/-- What is wrong at a stage while nothing is wrong at an earlier one. -/
def FailsFirst (request : CheckRequest) (stage : Stage) (error : CheckError) : Prop :=
  Fails request stage error ∧
    ∀ other cause, Fails request other cause → stage.rank ≤ other.rank

variable {request : CheckRequest} {stage : Stage} {error cause : CheckError}
  {startedAt finishedAt : Timestamp}

/-- An error tells by its headline at which stage it came up. -/
theorem Fails.headline_eq (fails : Fails request stage error) :
    error.chain.headline = stage.headline := by
  cases fails <;> rfl

/-- There is one error at a stage. -/
theorem Fails.error_eq (fails : Fails request stage error) (also : Fails request stage cause) :
    error = cause := by
  cases fails with
  | settingsText _ malformed =>
    cases also with
    | settingsText _ other =>
      rw [malformed] at other
      cases other
      rfl
  | settings read refused =>
    cases also with
    | settings otherRead other =>
      rw [read] at otherRead
      cases otherRead
      rw [refused] at other
      cases other
      rfl
  | treeText =>
    cases also
    rfl
  | tree parsed refused =>
    cases also with
    | tree otherParsed other =>
      rw [parsed] at otherParsed
      cases otherParsed
      rw [refused] at other
      cases other
      rfl

/-- The settings cannot be loaded iff something is wrong at one of the first two stages. -/
theorem load_eq_error_iff :
    (∃ fault, Settings.load request.settingsText request.overrides = .error fault ∧
        CheckError.settings fault = error) ↔
      Fails request .settingsText error ∨ Fails request .settings error := by
  simp only [Settings.load, bind_eq_error, mapError_eq_error, mapError_eq_ok]
  constructor
  · rintro ⟨_, ⟨cause, unreadable, rfl⟩ | ⟨file, read, cause, refused, rfl⟩, rfl⟩
    · obtain ⟨notBlank, malformed⟩ := SettingsFile.read_eq_error_iff.1 unreadable
      exact .inl (.settingsText notBlank malformed)
    · exact .inr (.settings read refused)
  · rintro (fails | fails)
    · cases fails with
      | settingsText notBlank malformed =>
        have unreadable := SettingsFile.read_eq_error_iff.2 ⟨notBlank, malformed⟩
        exact ⟨_, .inl ⟨_, unreadable, rfl⟩, rfl⟩
    · cases fails with
      | settings read refused => exact ⟨_, .inr ⟨_, read, _, refused, rfl⟩, rfl⟩

/-- There is no tree iff something is wrong at one of the other two stages. -/
theorem readTree_eq_error_iff :
    readTree request.treeText = .error error ↔
      Fails request .treeText error ∨ Fails request .tree error := by
  unfold readTree
  constructor
  · intro failed
    split at failed
    case h_1 malformed =>
      cases failed
      exact .inl (.treeText malformed)
    case h_2 document parsed =>
      obtain ⟨_, refused, rfl⟩ := mapError_eq_error.1 failed
      exact .inr (.tree parsed refused)
  · rintro (fails | fails)
    · cases fails with
      | treeText malformed => rw [malformed]
    · cases fails with
      | tree parsed refused =>
        rw [parsed]
        exact mapError_eq_error.2 ⟨_, refused, rfl⟩

/-- If the settings can be loaded, only the tree can be wrong. -/
theorem Fails.eq_treeText_or_eq_tree (fails : Fails request stage error)
    {settings : EffectiveSettings}
    (loaded : Settings.load request.settingsText request.overrides = .ok settings) :
    stage = .treeText ∨ stage = .tree := by
  cases stage with
  | settingsText =>
    obtain ⟨_, failed, _⟩ := load_eq_error_iff.2 (.inl fails)
    exact nomatch failed.symm.trans loaded
  | settings =>
    obtain ⟨_, failed, _⟩ := load_eq_error_iff.2 (.inr fails)
    exact nomatch failed.symm.trans loaded
  | treeText => exact .inl rfl
  | tree => exact .inr rfl

/-- A request with which something is wrong comes to no outcome. -/
theorem Fails.run_ne_ok (fails : Fails request stage error) (outcome : CheckOutcome) :
    run request startedAt finishedAt ≠ .ok outcome := by
  intro ran
  obtain ⟨tree, _, loaded, read, _⟩ := run_eq_ok_iff.1 ran
  have unread : readTree request.treeText = .error error := by
    rw [readTree_eq_error_iff]
    rcases fails.eq_treeText_or_eq_tree loaded with rfl | rfl
    · exact .inl fails
    · exact .inr fails
  exact nomatch unread.symm.trans read

/-- Settings that are merged have a rule set, and options if their allowlists compile. -/
theorem exists_rules_and_options {file : SettingsFile} {overrides : Overrides}
    {settings : EffectiveSettings} (resolved : Settings.resolve file overrides = .ok settings)
    (compile : settings.GlobSetsCompile) :
    (∃ rules, Catalog.ruleSet settings Catalog.builtin = .ok rules) ∧
      ∃ options, EngineOptions.ofSettings settings = .ok options :=
  ⟨⟨_, Catalog.ruleSet_builtin settings⟩,
    EngineOptions.exists_ofSettings_eq_ok (Settings.areWellFormed_of_resolve resolved) compile⟩

/-- Settings that are loaded have an engine if their allowlists compile. -/
theorem exists_engine_of_load {text : String} {overrides : Overrides}
    {settings : EffectiveSettings} (loaded : Settings.load text overrides = .ok settings)
    (compile : settings.GlobSetsCompile) : ∃ engine, Check.engine settings = .ok engine := by
  obtain ⟨file, _, resolved⟩ := Settings.load_eq_ok_iff.1 loaded
  obtain ⟨⟨rules, ruleSet⟩, options, compiled⟩ := exists_rules_and_options resolved compile
  exact ⟨_, engine_eq_ok_iff.2 ⟨rules, options, ruleSet, compiled, rfl⟩⟩

/-- A check whose engine can be built fails because of the settings or, if these can be loaded,
because of the tree. -/
theorem load_or_readTree_of_run (compile : request.GlobSetsCompile)
    (failed : run request startedAt finishedAt = .error error) :
    (∃ fault, Settings.load request.settingsText request.overrides = .error fault ∧
        CheckError.settings fault = error) ∨
      (∃ settings, Settings.load request.settingsText request.overrides = .ok settings) ∧
        readTree request.treeText = .error error := by
  simp only [run, bind_eq_error, mapError_eq_error, mapError_eq_ok] at failed
  obtain fault | ⟨settings, loaded, unread | ⟨tree, _, noEngine | ⟨_, _, impossible⟩⟩⟩ := failed
  · exact .inl fault
  · exact .inr ⟨⟨settings, loaded⟩, unread⟩
  · obtain ⟨engine, built⟩ := exists_engine_of_load loaded (compile settings loaded)
    rw [built] at noEngine
    cases noEngine
  · cases impossible

/-- If the settings can be loaded and their allowlists compile, a check fails iff there is no
tree. -/
theorem run_eq_error_iff_readTree {settings : EffectiveSettings}
    (loaded : Settings.load request.settingsText request.overrides = .ok settings)
    (compile : settings.GlobSetsCompile) :
    run request startedAt finishedAt = .error error ↔
      readTree request.treeText = .error error := by
  constructor
  · intro failed
    have requestCompiles : request.GlobSetsCompile := fun other also =>
      Except.ok.inj (loaded.symm.trans also) ▸ compile
    obtain ⟨_, unloaded, _⟩ | ⟨_, unread⟩ := load_or_readTree_of_run requestCompiles failed
    · exact nomatch unloaded.symm.trans loaded
    · exact unread
  · intro unread
    rw [run, bind_eq_error]
    exact .inr ⟨settings, mapError_eq_ok.2 loaded, bind_eq_error.2 (.inl unread)⟩

/-- Settings cannot be merged if the file that they come from cannot be read. -/
theorem FailsFirst.of_settings (fails : Fails request .settings error) :
    FailsFirst request .settings error := by
  refine ⟨fails, fun other cause also => ?_⟩
  cases also with
  | settingsText notBlank malformed =>
    have unreadable := SettingsFile.read_eq_error_iff.2 ⟨notBlank, malformed⟩
    cases fails with
    | settings read _ => exact nomatch unreadable.symm.trans read
  | settings | treeText | tree => decide

/-- If the settings can be loaded, what is wrong with the tree is the first thing that is wrong. -/
theorem exists_failsFirst_of_load {settings : EffectiveSettings}
    (loaded : Settings.load request.settingsText request.overrides = .ok settings)
    (fails : Fails request .treeText error ∨ Fails request .tree error) :
    ∃ stage, FailsFirst request stage error := by
  rcases fails with fails | fails
  · refine ⟨.treeText, fails, fun other cause also => ?_⟩
    rcases also.eq_treeText_or_eq_tree loaded with rfl | rfl <;> decide
  · refine ⟨.tree, fails, fun other cause also => ?_⟩
    rcases also.eq_treeText_or_eq_tree loaded with rfl | rfl
    · cases fails with
      | tree parsed _ =>
        cases also with
        | treeText malformed => exact nomatch malformed.symm.trans parsed
    · exact Nat.le_refl _

/-- A check that fails does so at the first stage at which something is wrong. -/
theorem exists_failsFirst_of_run (compile : request.GlobSetsCompile)
    (failed : run request startedAt finishedAt = .error error) :
    ∃ stage, FailsFirst request stage error := by
  rcases load_or_readTree_of_run compile failed with settingsFailed | ⟨⟨settings, loaded⟩, unread⟩
  · rcases load_eq_error_iff.1 settingsFailed with fails | fails
    · exact ⟨.settingsText, fails, fun _ _ _ => Nat.zero_le _⟩
    · exact ⟨.settings, .of_settings fails⟩
  · exact exists_failsFirst_of_load loaded (readTree_eq_error_iff.1 unread)

/-- A check fails iff something is wrong at one of four stages, and with the error of the first of
them: the settings file, if it is not blank, the merging of the settings, the JSON text, and the
tree. The error is told under the headline of its stage. In particular any settings that can be
merged have a rule set, and options for the engine, which cannot fail. -/
theorem run_eq_error_iff_failsFirst (compile : request.GlobSetsCompile)
    (startedAt finishedAt : Timestamp) :
    (∀ error, run request startedAt finishedAt = .error error ↔
        ∃ stage, FailsFirst request stage error) ∧
      ((∃ error, run request startedAt finishedAt = .error error) ↔
        ∃ stage error, Fails request stage error) ∧
      (∀ stage error, Fails request stage error → error.chain.headline = stage.headline) ∧
      ∀ file overrides settings, Settings.resolve file overrides = .ok settings →
        settings.GlobSetsCompile →
          (∃ rules, Catalog.ruleSet settings Catalog.builtin = .ok rules) ∧
            ∃ options, EngineOptions.ofSettings settings = .ok options := by
  have exists_of_fails {stage : Stage} {error : CheckError} (fails : Fails request stage error) :
      ∃ cause, run request startedAt finishedAt = .error cause := by
    cases ended : run request startedAt finishedAt with
    | error cause => exact ⟨cause, rfl⟩
    | ok outcome => exact absurd ended (fails.run_ne_ok outcome)
  refine ⟨fun error => ⟨exists_failsFirst_of_run compile, ?_⟩, ⟨?_, ?_⟩, ?_, ?_⟩
  · rintro ⟨stage, fails, earliest⟩
    obtain ⟨cause, ended⟩ := exists_of_fails fails
    -- the error that the check comes to is also one of an earliest stage
    obtain ⟨other, also, otherEarliest⟩ := exists_failsFirst_of_run compile ended
    have same : stage = other := Stage.eq_of_rank_eq <|
      Nat.le_antisymm (earliest other cause also) (otherEarliest stage error fails)
    subst same
    rw [ended, fails.error_eq also]
  · rintro ⟨error, failed⟩
    obtain ⟨stage, fails, _⟩ := exists_failsFirst_of_run compile failed
    exact ⟨stage, error, fails⟩
  · rintro ⟨stage, error, fails⟩
    exact exists_of_fails fails
  · intro stage error fails
    exact fails.headline_eq
  · intro file overrides settings resolved settingsCompile
    exact exists_rules_and_options resolved settingsCompile

/-- Settings with an allowlist, and a document that is no tree. -/
theorem run_eq_error_iff_failsFirst_of_list :
    let request : CheckRequest :=
      { treeText := "[]"
        settingsText := "[rules.GR_AZURE_002]\nallow = [\"*.backup\", \"[a-c]?\"]"
        overrides := {} }
    request.GlobSetsCompile ∧
      run request .epoch .epoch = .error (.treeShape (.rootForm .sequence)) := by
  intro request
  have compiled : (Settings.load request.settingsText request.overrides).toOption.map
      (fun settings => decide settings.GlobSetsCompile) = some true := by
    decide +kernel
  obtain ⟨settings, successful, _⟩ := Option.map_eq_some_iff.1 compiled
  have loaded := toOption_eq_some_iff.1 successful
  have compile : request.GlobSetsCompile := by
    intro other also
    simpa [also, Except.toOption] using compiled
  have unread : readTree request.treeText = .error (.treeShape (.rootForm .sequence)) := by
    cbv
  have first := exists_failsFirst_of_load loaded (readTree_eq_error_iff.1 unread)
  exact ⟨compile, ((run_eq_error_iff_failsFirst compile .epoch .epoch).1 _).2 first⟩

end Check

end ConfigAudit
