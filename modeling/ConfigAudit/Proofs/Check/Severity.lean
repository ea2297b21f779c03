import Mathlib.Data.List.Forall2
import ConfigAudit.Json.Printer
import ConfigAudit.Proofs.Check.Consistency
import ConfigAudit.Proofs.Check.Failure

/-!
# Severities and findings

How severe a failure is and what is found are two things. Two checks of one tree whose settings let
the same rules judge the same resources have the same findings, under whichever profile, severities,
least failing severity and number of workers: `Check.sameFindings_of_sameScope`.
-/

namespace ConfigAudit

namespace EffectiveSettings

/-- Two settings enable the same rules of the catalog, each with the same patterns. -/
structure SameScope (first second : EffectiveSettings) : Prop where
  enabled : ∀ rule ∈ Catalog.builtin,
    first.isEnabled rule.info.id = second.isEnabled rule.info.id
  allowed : ∀ rule ∈ Catalog.builtin, first.allowed rule.info.id = second.allowed rule.info.id

instance (first second : EffectiveSettings) : Decidable (first.SameScope second) :=
  decidable_of_iff
    (∀ rule ∈ Catalog.builtin, first.isEnabled rule.info.id = second.isEnabled rule.info.id ∧
      first.allowed rule.info.id = second.allowed rule.info.id)
    ⟨fun same => ⟨fun rule member => (same rule member).1, fun rule member => (same rule member).2⟩,
      fun scope rule member => ⟨scope.enabled rule member, scope.allowed rule member⟩⟩

end EffectiveSettings

namespace ResultEntry

/-- The result with another severity. -/
def withSeverity (entry : ResultEntry) (severity : Severity) : ResultEntry :=
  { entry with severity }

/-- Two results differ in nothing but their severities. -/
def SameFinding (entry other : ResultEntry) : Prop :=
  entry.withSeverity other.severity = other

theorem SameFinding.outcome_eq {entry other : ResultEntry} (same : entry.SameFinding other) :
    entry.outcome = other.outcome := by
  rw [← same]
  rfl

end ResultEntry

namespace ResultRecord

/-- The record with another severity. -/
def withSeverity (record : ResultRecord) (severity : Severity) : ResultRecord :=
  { record with severity }

/-- Two records differ in nothing but their severities. -/
def SameFinding (record other : ResultRecord) : Prop :=
  record.withSeverity other.severity = other

end ResultRecord

/-- Nor do the records of two such results. -/
theorem ResultEntry.SameFinding.record {entry other : ResultEntry} (same : entry.SameFinding other) :
    (Check.record entry).SameFinding (Check.record other) :=
  congrArg Check.record same

/-- Two reports differ in nothing but severities, the name of the profile, the verdict and the
time. -/
structure Report.SameFindings (first second : Report) : Prop where
  schema : first.schema = second.schema
  tool : first.tool = second.tool
  /-- The records come in one order. -/
  records : first.results.Forall₂ ResultRecord.SameFinding second.results
  /-- The figures and the reasons are the same. -/
  data : { first.data with profile := second.data.profile } = second.data

namespace Rule

/-- What is found does not depend on the severity that the settings give a rule. -/
theorem finding_adjust (settings : EffectiveSettings) (rule : Rule) (attributes : Attributes) :
    (Catalog.adjust settings rule).finding attributes = rule.finding attributes := by
  rw [finding, finding, Catalog.evaluate_adjust]

end Rule

namespace Check

section

variable {first second : EffectiveSettings} {firstEngine secondEngine : Engine}

/-- The entries that are due on a tree from the rules of the catalog that are due for it. -/
def dueEntries (settings : EffectiveSettings) (engine : Engine) (tree : Tree) : List ResultEntry :=
  tree.resources.flatMap fun (resource, attributes) =>
    (Catalog.dueRules settings resource.kind).map fun rule =>
      engine.dueEntry resource attributes (Catalog.adjust settings rule)

/-- An engine without a budget comes to the entries that are due. -/
theorem map_resultEntry_workList {settings : EffectiveSettings} {engine : Engine}
    (built : Check.engine settings = .ok engine) (unlimited : engine.options.budget = none)
    (overruns : WorkItem → Bool) (tree : Tree) :
    (engine.workList tree).map (engine.resultEntry overruns) =
      dueEntries settings engine tree := by
  simp only [dueEntries, workList_engine built, List.map_flatMap, List.map_map, Function.comp_def,
    Engine.resultEntry_eq_dueEntry unlimited]

/-- A rule finds the same on a resource under settings with the same patterns for it. -/
theorem sameFinding_dueEntry {rule : Rule}
    (suppressed : ∀ address,
      firstEngine.options.suppressions.suppresses rule.info.id address =
        secondEngine.options.suppressions.suppresses rule.info.id address)
    (resource : Resource) (attributes : Attributes) :
    (firstEngine.dueEntry resource attributes (Catalog.adjust first rule)).SameFinding
      (secondEngine.dueEntry resource attributes (Catalog.adjust second rule)) := by
  simp only [Engine.dueEntry, ResultEntry.SameFinding, ResultEntry.withSeverity,
    Rule.finding_adjust, Catalog.info_adjust, suppressed]

/-- The same rules of the catalog are due for a kind. -/
theorem dueRules_eq_of_sameScope (scope : first.SameScope second) (kind : String) :
    Catalog.dueRules first kind = Catalog.dueRules second kind :=
  List.filter_congr fun rule builtin => by rw [scope.enabled rule builtin]

/-- As many rules are loaded. -/
theorem size_rules_eq_of_sameScope (scope : first.SameScope second)
    (firstBuilt : Check.engine first = .ok firstEngine)
    (secondBuilt : Check.engine second = .ok secondEngine) :
    firstEngine.rules.size = secondEngine.rules.size := by
  rw [size_rules_engine firstBuilt, size_rules_engine secondBuilt,
    List.filter_congr scope.enabled]

/-- The due entries under both settings come in one order and differ in their severities only. -/
theorem forall₂_dueEntries (scope : first.SameScope second)
    (suppressed : ∀ rule ∈ Catalog.builtin, ∀ address,
      firstEngine.options.suppressions.suppresses rule.info.id address =
        secondEngine.options.suppressions.suppresses rule.info.id address) (tree : Tree) :
    (dueEntries first firstEngine tree).Forall₂ ResultEntry.SameFinding
      (dueEntries second secondEngine tree) := by
  refine List.rel_flatMap (R := Eq) (List.forall₂_refl _) ?_
  rintro ⟨resource, attributes⟩ _ rfl
  dsimp only
  rw [dueRules_eq_of_sameScope scope, List.forall₂_map_left_iff, List.forall₂_map_right_iff,
    List.forall₂_same]
  intro rule due
  exact sameFinding_dueEntry (suppressed rule (List.mem_filter.1 due).1) resource attributes

/-- Results that differ in their severities only give reports with the same findings. -/
theorem sameFindings_report {firstResults secondResults : ResultSet}
    (entries : firstResults.entries.Forall₂ ResultEntry.SameFinding secondResults.entries)
    (complete : firstResults.complete = secondResults.complete)
    (size : firstEngine.rules.size = secondEngine.rules.size) (tree : Tree)
    (startedAt finishedAt otherStartedAt otherFinishedAt : Timestamp) :
    (report first tree firstEngine.rules firstResults startedAt finishedAt).SameFindings
      (report second tree secondEngine.rules secondResults otherStartedAt otherFinishedAt) := by
  have outcomes : firstResults.entries.map (·.outcome) =
      secondResults.entries.map (·.outcome) := by
    rw [← List.forall₂_eq_eq_eq, List.forall₂_map_left_iff, List.forall₂_map_right_iff]
    exact entries.imp fun _ _ same => same.outcome_eq
  have summary : firstResults.summary = secondResults.summary := by
    rw [ResultSet.summary_eq_foldl, outcomes, ← ResultSet.summary_eq_foldl]
  have sameReasons : reasons firstResults = reasons secondResults := by
    rw [reasons, reasons, complete, summary]
  refine ⟨rfl, rfl, ?_, ?_⟩
  · rw [report, report, List.forall₂_map_left_iff, List.forall₂_map_right_iff]
    exact entries.imp fun _ _ same => same.record
  · simp only [report, complete, size, summary, sameReasons]

end

/-- Two checks of one tree that nobody cancels have the same findings if their settings let the same
rules of the catalog judge the same resources and set no budget. Records differ in their severities
only, and the figures and reasons do not differ. If the allowlists compile, both checks fail
alike. -/
theorem sameFindings_of_sameScope {first second : CheckRequest}
    {firstSettings secondSettings : EffectiveSettings}
    (sameTree : first.treeText = second.treeText)
    (firstLoaded : Settings.load first.settingsText first.overrides = .ok firstSettings)
    (secondLoaded : Settings.load second.settingsText second.overrides = .ok secondSettings)
    (scope : firstSettings.SameScope secondSettings)
    (firstUnlimited : firstSettings.ruleBudget = none)
    (secondUnlimited : secondSettings.ruleBudget = none)
    (startedAt finishedAt otherStartedAt otherFinishedAt : Timestamp) :
    (∀ outcome other, YieldsUncancelled first startedAt finishedAt outcome →
        YieldsUncancelled second otherStartedAt otherFinishedAt other →
          outcome.report.SameFindings other.report) ∧
      (firstSettings.GlobSetsCompile → secondSettings.GlobSetsCompile →
        ∀ error, run first startedAt finishedAt = .error error ↔
          run second otherStartedAt otherFinishedAt = .error error) := by
  constructor
  · intro outcome other yields otherYields
    obtain ⟨tree, engine, overruns, loaded, read, built, reported⟩ := yields.exists_engine
    obtain ⟨_, otherEngine, otherOverruns, otherLoaded, otherRead, otherBuilt, otherReported⟩ :=
      otherYields.exists_engine
    -- both outcomes come from the one tree, each under the settings that its request loads
    obtain rfl := Except.ok.inj (firstLoaded.symm.trans loaded)
    obtain rfl := Except.ok.inj (secondLoaded.symm.trans otherLoaded)
    rw [sameTree] at read
    obtain rfl := Except.ok.inj (read.symm.trans otherRead)
    obtain ⟨budget, suppresses⟩ := options_engine loaded built
    obtain ⟨otherBudget, otherSuppresses⟩ := options_engine otherLoaded otherBuilt
    have suppressed : ∀ rule ∈ Catalog.builtin, ∀ address,
        engine.options.suppressions.suppresses rule.info.id address =
          otherEngine.options.suppressions.suppresses rule.info.id address := by
      intro rule builtin address
      rw [suppresses, otherSuppresses, scope.allowed rule builtin]
    rw [reported, otherReported,
      map_resultEntry_workList built (budget.trans firstUnlimited),
      map_resultEntry_workList otherBuilt (otherBudget.trans secondUnlimited)]
    have loadedRules := size_rules_eq_of_sameScope scope built otherBuilt
    refine sameFindings_report ?_ ?_ loadedRules tree ..
    · exact forall₂_dueEntries scope suppressed tree
    · rfl
  · intro firstCompiles secondCompiles error
    rw [run_eq_error_iff_readTree firstLoaded firstCompiles,
      run_eq_error_iff_readTree secondLoaded secondCompiles, sameTree]

/-- An account without attributes, judged by one rule under a severity of its own and under that of
a profile. -/
theorem sameFindings_of_sameScope_of_profile :
    let document : Json := .object [("azurerm_storage_account", .array [.object []])]
    let first : CheckRequest :=
      { treeText := document.render
        settingsText := "[rules]\nGR_AZURE_002.enabled = false\nGR_AZURE_003.severity = \"info\""
        overrides := {} }
    let second : CheckRequest :=
      { treeText := document.render
        settingsText := "rules.GR_AZURE_002.enabled = false"
        overrides := { profile := some "warn", parallelism := some 2 } }
    ∃ outcome other, run first .epoch .epoch = .ok outcome ∧ run second .epoch .epoch = .ok other ∧
      outcome.settings.SameScope other.settings ∧
      outcome.settings.ruleBudget = none ∧ other.settings.ruleBudget = none ∧
      outcome.settings.GlobSetsCompile ∧ other.settings.GlobSetsCompile ∧
      outcome.report.findings = [(.info, .failed)] ∧
      other.report.findings = [(.warning, .failed)] ∧
      outcome.report.SameFindings other.report ∧
      ∀ error, run first .epoch .epoch = .error error ↔ run second .epoch .epoch = .error error := by
  intro document first second
  have ran : (run first .epoch .epoch).toOption.bind (fun outcome =>
      (run second .epoch .epoch).toOption.map fun other =>
        (decide (outcome.settings.SameScope other.settings ∧
            outcome.settings.ruleBudget = none ∧ other.settings.ruleBudget = none ∧
            outcome.settings.GlobSetsCompile ∧ other.settings.GlobSetsCompile),
          outcome.report.findings, other.report.findings)) =
      some (true, [(.info, .failed)], [(.warning, .failed)]) := by
    decide +kernel
  obtain ⟨outcome, succeeded, otherRan⟩ := Option.bind_eq_some_iff.1 ran
  rw [toOption_eq_some_iff] at succeeded
  obtain ⟨other, otherSucceeded, told⟩ := map_toOption_eq_some_iff.1 otherRan
  simp only [Prod.mk.injEq, decide_eq_true_eq] at told
  obtain ⟨⟨scope, unlimited, otherUnlimited, compile, otherCompile⟩, findings, otherFindings⟩ :=
    told
  have yields := yieldsUncancelled_of_run rfl succeeded
  have otherYields := yieldsUncancelled_of_run rfl otherSucceeded
  obtain ⟨_, _, _, loaded, _⟩ := yields.exists_engine
  obtain ⟨_, _, _, otherLoaded, _⟩ := otherYields.exists_engine
  have sameTree : first.treeText = second.treeText := rfl
  obtain ⟨same, failAlike⟩ := sameFindings_of_sameScope sameTree loaded otherLoaded scope unlimited
    otherUnlimited .epoch .epoch .epoch .epoch
  exact ⟨outcome, other, succeeded, otherSucceeded, scope, unlimited, otherUnlimited, compile,
    otherCompile, findings, otherFindings, same outcome other yields otherYields,
    failAlike compile otherCompile⟩

end Check

end ConfigAudit
