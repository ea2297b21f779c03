import ConfigAudit.Json.Printer
import ConfigAudit.Proofs.Check.Outcomes
import ConfigAudit.Proofs.ResultSet

/-!
# Reports that agree with themselves

The figures, the reasons and the verdict of a report are written down at different moments of a
check. `Report.IsConsistent` says how they hang together with the records, the tree and the settings,
whatever was disabled, allowed, cut short or cancelled, and `Check.isConsistent_of_yields` that they
do.
-/

namespace ConfigAudit

namespace Report

/-- The severities and outcomes of the records. -/
def findings (report : Report) : List (Severity × Outcome) :=
  report.results.map fun record => (record.severity, record.outcome)

/-- A report on a tree under some settings is in agreement with itself. -/
structure IsConsistent (report : Report) (settings : EffectiveSettings) (tree : Tree) : Prop where
  /-- The summary counts the records of each outcome. -/
  summary : ∀ outcome, (report.data.summary.get outcome).toNat =
    report.results.countP fun record => record.outcome == outcome
  /-- Its figures add up to the number of records. -/
  total : report.data.summary.passed.toNat + report.data.summary.failed.toNat +
    report.data.summary.skipped.toNat + report.data.summary.unknown.toNat = report.results.length
  /-- The instances of all kinds were scanned. -/
  scanned : report.data.resourcesScanned.toNat =
    (tree.kinds.map fun (_, instances) => instances.length).sum
  /-- The reasons are the early end of the run and breakdowns of rules, and no other ones. -/
  reasons : report.data.reasons =
    (if report.data.complete then [] else ["run_cancelled"]) ++
      (if ∃ record ∈ report.results, record.outcome = .unknown then ["unknown_outcomes"] else [])
  /-- The verdict can be told from the records and from whether the run is complete. -/
  verdict : report.verdict = .ofFindings settings.failOn report.data.complete report.findings
  /-- Nothing is held back by a verdict that lets a run pass. -/
  pass : report.verdict = .pass → report.data.complete = true ∧
    ∀ record ∈ report.results, record.outcome = .passed ∨ record.outcome = .skipped
  /-- A complete run has a record for each instance and each rule that is due for its kind. -/
  full : report.data.complete = true → report.results.length =
    (tree.kinds.map fun (kind, instances) =>
      instances.length * (Catalog.dueRules settings kind).length).sum

end Report

namespace Check

/-- The work list of a check has an item for each instance and each rule that is due for its
kind. -/
theorem length_workList_engine {settings : EffectiveSettings} {engine : Engine}
    (built : Check.engine settings = .ok engine) (tree : Tree) :
    (engine.workList tree).length = (tree.kinds.map fun (kind, instances) =>
      instances.length * (Catalog.dueRules settings kind).length).sum := by
  have ofKind (kind : String) (instances : List Attributes) :
      ((Tree.resourcesOfKind kind instances).map fun entry =>
        (Catalog.dueRules settings entry.1.kind).length).sum =
      instances.length * (Catalog.dueRules settings kind).length := by
    simp [Tree.resourcesOfKind, Function.comp_def, List.map_const']
  rw [workList_engine built, Tree.resources, List.flatMap_assoc, List.length_flatMap]
  simp only [List.length_flatMap, List.length_map, ofKind]

variable {settings : EffectiveSettings} {tree : Tree} {engine : Engine} {results : ResultSet}
  {startedAt finishedAt : Timestamp}

/-- The records of a report have the severities and outcomes of the results. -/
theorem findings_report :
    (report settings tree engine.rules results startedAt finishedAt).findings =
      results.findings := by
  simp [Report.findings, report, ResultSet.findings, record, Function.comp_def]

/-- The verdict of a report can be told from its records and from whether the run is complete. -/
theorem verdict_report :
    (report settings tree engine.rules results startedAt finishedAt).verdict =
      .ofFindings settings.failOn results.complete
        (report settings tree engine.rules results startedAt finishedAt).findings := by
  rw [findings_report]
  exact results.verdict_eq_ofFindings settings.failOn

/-- A report mentions breakdowns iff a record tells of one. -/
theorem reasons_eq (few : results.entries.length < 2 ^ 32) :
    reasons results = (if results.complete then [] else ["run_cancelled"]) ++
      (if ∃ entry ∈ results.entries, entry.outcome = .unknown then ["unknown_outcomes"]
        else []) := by
  have counted : 0 < results.summary.unknown ↔
      ∃ entry ∈ results.entries, entry.outcome = .unknown := by
    have number := ResultSet.toNat_get_summary few .unknown
    rw [UInt32.lt_iff_toNat_lt, ← List.mem_map, ← List.count_pos_iff, ← number]
    rfl
  rw [reasons, if_congr counted rfl rfl]

/-- A report on results is in agreement with itself if these are not too many and, in case they are
complete, as many as the items of the work list. -/
theorem isConsistent_report (built : Check.engine settings = .ok engine)
    (few : results.entries.length < 2 ^ 32) (fewInstances : tree.resourceCount < 2 ^ 32)
    (full : results.complete = true → results.entries.length = (engine.workList tree).length) :
    (report settings tree engine.rules results startedAt finishedAt).IsConsistent settings
      tree where
  summary := by
    intro outcome
    refine (ResultSet.toNat_get_summary few outcome).trans ?_
    simp [report, List.count, List.countP_map, record, Function.comp_def]
  total := by
    have counts := ResultSet.toNat_get_summary few
    have sum := Outcome.length_eq_sum_count (results.entries.map (·.outcome))
    rw [← counts, ← counts, ← counts, ← counts] at sum
    refine sum.trans ?_
    simp [report]
  scanned := (UInt32.toNat_ofNat_of_lt fewInstances).trans tree.resourceCount_eq_sum
  reasons := by
    refine (reasons_eq few).trans (congrArg _ (if_congr ?_ rfl rfl))
    simp [report, record]
  verdict := verdict_report
  pass := by
    intro passes
    obtain ⟨complete, harmless⟩ :=
      Verdict.ofFindings_eq_pass_iff.1 (verdict_report.symm.trans passes)
    exact ⟨complete, List.forall_mem_map.1 harmless⟩
  full := by
    intro complete
    rw [← length_workList_engine built, ← full complete]
    exact List.length_map _

/-- The verdict of every outcome can be told from the records, and from whether the run is
complete. -/
theorem Yields.verdict_eq {request : CheckRequest} {outcome : CheckOutcome}
    (yields : Yields request startedAt finishedAt outcome) :
    outcome.report.verdict = .ofFindings outcome.settings.failOn outcome.report.data.complete
      outcome.report.findings := by
  obtain ⟨_, _, _, _, _, _, _, _, _, reported⟩ := yields.exists_results
  rw [reported]
  exact verdict_report

/-- Whoever cancels a check and whenever, its report is in agreement with itself, as long as there
are not more records and instances than can be counted. -/
theorem isConsistent_of_yields {request : CheckRequest} {outcome : CheckOutcome}
    (yields : Yields request startedAt finishedAt outcome)
    (read : readTree request.treeText = .ok tree)
    (fewRecords : outcome.report.results.length < 2 ^ 32)
    (fewInstances : tree.resourceCount < 2 ^ 32) :
    outcome.report.IsConsistent outcome.settings tree := by
  obtain ⟨_, engine, overruns, results, _, readAgain, built, _, full, reported⟩ :=
    yields.exists_results
  obtain rfl := Except.ok.inj (read.symm.trans readAgain)
  rw [reported] at fewRecords ⊢
  refine isConsistent_report built (by simpa [report] using fewRecords) fewInstances ?_
  intro complete
  rw [full complete, List.length_map]

/-- A group that cannot be judged beside one without rules, under settings that disable a rule. -/
theorem isConsistent_of_yields_of_breakdown :
    let document : Json := .object
      [("azurerm_network_security_group",
        .array [.object [("security_rule", .array [.null])], .object []])]
    let request : CheckRequest :=
      { treeText := document.render
        settingsText := "rules.GR_AZURE_003.enabled = false"
        overrides := {} }
    ∃ tree outcome, Yields request .epoch .epoch outcome ∧
      readTree request.treeText = .ok tree ∧
      outcome.report.results.length < 2 ^ 32 ∧ tree.resourceCount < 2 ^ 32 ∧
      outcome.report.IsConsistent outcome.settings tree ∧
      outcome.report.results.map (·.outcome) = [.unknown, .passed] ∧
      outcome.report.data.reasons = ["unknown_outcomes"] := by
  intro document request
  have ran : (run request .epoch .epoch).toOption.map
      (fun outcome => (outcome.report.results.map (·.outcome), outcome.report.data.reasons)) =
        some ([.unknown, .passed], ["unknown_outcomes"]) := by
    decide +kernel
  have counted : (readTree request.treeText).toOption.map Tree.resourceCount = some 2 := by
    decide +kernel
  obtain ⟨outcome, succeeded, told⟩ := map_toOption_eq_some_iff.1 ran
  obtain ⟨tree, read, instances⟩ := map_toOption_eq_some_iff.1 counted
  obtain ⟨outcomes, reasons⟩ := Prod.mk.inj told
  have yields := yields_of_run succeeded
  have records : outcome.report.results.length = 2 := by
    simpa using congrArg List.length outcomes
  have fewRecords : outcome.report.results.length < 2 ^ 32 := by omega
  have fewInstances : tree.resourceCount < 2 ^ 32 := by omega
  exact ⟨tree, outcome, yields, read, fewRecords, fewInstances,
    isConsistent_of_yields yields read fewRecords fewInstances, outcomes, reasons⟩

end Check

end ConfigAudit
