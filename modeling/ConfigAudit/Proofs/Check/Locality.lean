import ConfigAudit.Json.Printer
import ConfigAudit.Proofs.Check.Severity

/-!
# Settings of one rule

What the settings say of one rule matters to the records of this rule only. Two checks of one tree
whose settings differ in the policy of one rule have the same records of all other rules, and they
differ in nothing but the time if the catalog has no such rule: `Check.sameRecords_of_differOnlyAt`.
-/

namespace ConfigAudit

namespace EffectiveSettings

/-- Two settings differ at most in the policy of one rule. -/
structure DifferOnlyAt (id : String) (first second : EffectiveSettings) : Prop where
  /-- What they say of the run as a whole is the same. -/
  general : { first with rules := second.rules } = second
  policy : ∀ other, other ≠ id → first.policy? other = second.policy? other

/-- Settings differ at one rule only if they agree once the policies of this rule are left out. -/
theorem differOnlyAt_of_filter {id : String} {first second : EffectiveSettings}
    (general : { first with rules := second.rules } = second)
    (others : first.rules.filter (·.1 != id) = second.rules.filter (·.1 != id)) :
    DifferOnlyAt id first second := by
  refine ⟨general, fun other different => ?_⟩
  have kept (rules : List (String × RulePolicy)) :
      (rules.filter (·.1 != id)).lookup other = rules.lookup other := by
    induction rules with
    | nil => rfl
    | cons entry rest inductionHypothesis =>
      obtain ⟨key, policy⟩ := entry
      by_cases same : key = id
      · subst same
        simp [inductionHypothesis, Members.lookup_cons_of_ne different]
      · simp [same, List.lookup_cons, inductionHypothesis]
  rw [policy?, policy?, ← kept first.rules, others, kept]

namespace DifferOnlyAt

variable {id other : String} {first second : EffectiveSettings}

theorem isEnabled_eq (differ : DifferOnlyAt id first second) (different : other ≠ id) :
    first.isEnabled other = second.isEnabled other := by
  rw [isEnabled, isEnabled, differ.policy other different]

theorem allowed_eq (differ : DifferOnlyAt id first second) (different : other ≠ id) :
    first.allowed other = second.allowed other := by
  rw [allowed, allowed, differ.policy other different]

/-- A rule of another identifier is the same under both settings. -/
theorem adjust_eq (differ : DifferOnlyAt id first second) {rule : Rule}
    (different : rule.info.id ≠ id) : Catalog.adjust first rule = Catalog.adjust second rule := by
  have severity : first.severity? rule.info.id = second.severity? rule.info.id := by
    rw [severity?, severity?, differ.policy _ different]
  rw [Catalog.adjust_eq_withSeverity, Catalog.adjust_eq_withSeverity, severity]

/-- The same rules of other identifiers are due for a kind. -/
theorem filter_dueRules_eq (differ : DifferOnlyAt id first second) (kind : String) :
    ((Catalog.dueRules first kind).filter fun rule => rule.info.id != id) =
      (Catalog.dueRules second kind).filter fun rule => rule.info.id != id := by
  rw [Catalog.dueRules, Catalog.dueRules, List.filter_filter, List.filter_filter]
  refine List.filter_congr fun rule _ => ?_
  by_cases same : rule.info.id = id
  · simp [same]
  · simp [differ.isEnabled_eq same]

end DifferOnlyAt

end EffectiveSettings

namespace Check

section

variable {first second settings : EffectiveSettings} {firstEngine secondEngine engine : Engine}
  {id : String} {tree : Tree}

/-- The due entries of other rules than a given one come from the other rules that are due. -/
theorem filter_dueEntries (settings : EffectiveSettings) (engine : Engine) (tree : Tree)
    (id : String) :
    ((dueEntries settings engine tree).filter fun entry => entry.ruleId != id) =
      tree.resources.flatMap fun (resource, attributes) =>
        ((Catalog.dueRules settings resource.kind).filter fun rule => rule.info.id != id).map
          fun rule => engine.dueEntry resource attributes (Catalog.adjust settings rule) := by
  have ruleId (resource : Resource) (attributes : Attributes) (rule : Rule) :
      (engine.dueEntry resource attributes (Catalog.adjust settings rule)).ruleId = rule.info.id :=
    Catalog.id_adjust settings rule
  simp only [dueEntries, List.filter_flatMap, List.filter_map, Function.comp_def, ruleId]

/-- If a rule is allowed the same, its entry is the same. -/
theorem filter_dueEntries_eq (differ : first.DifferOnlyAt id second)
    (suppressed : ∀ other, other ≠ id → ∀ address,
      firstEngine.options.suppressions.suppresses other address =
        secondEngine.options.suppressions.suppresses other address) (tree : Tree) :
    ((dueEntries first firstEngine tree).filter fun entry => entry.ruleId != id) =
      (dueEntries second secondEngine tree).filter fun entry => entry.ruleId != id := by
  rw [filter_dueEntries, filter_dueEntries]
  refine congrArg tree.resources.flatMap (funext fun (resource, attributes) => ?_)
  dsimp only
  rw [differ.filter_dueRules_eq]
  refine List.map_congr_left fun rule member => ?_
  have different : rule.info.id ≠ id := by simpa using (List.mem_filter.1 member).2
  rw [differ.adjust_eq different, Engine.dueEntry, Engine.dueEntry, Catalog.id_adjust,
    suppressed _ different]

/-- A due entry is one of a rule of the catalog. -/
theorem ruleId_mem_of_mem_dueEntries {entry : ResultEntry}
    (member : entry ∈ dueEntries settings engine tree) :
    entry.ruleId ∈ Catalog.builtin.map (·.info.id) := by
  obtain ⟨_, _, ofResource⟩ := List.mem_flatMap.1 member
  obtain ⟨rule, due, rfl⟩ := List.mem_map.1 ofResource
  exact List.mem_map.2 ⟨rule, (List.mem_filter.1 due).1, (Catalog.id_adjust settings rule).symm⟩

/-- No due entry is one of a rule that the catalog does not have. -/
theorem filter_dueEntries_of_notMem (foreign : id ∉ Catalog.builtin.map (·.info.id)) :
    ((dueEntries settings engine tree).filter fun entry => entry.ruleId != id) =
      dueEntries settings engine tree := by
  refine List.filter_eq_self.2 fun entry member => bne_iff_ne.2 ?_
  rintro rfl
  exact foreign (ruleId_mem_of_mem_dueEntries member)

/-- As many rules are loaded if the settings differ at none of the catalog. -/
theorem size_rules_eq_of_notMem (differ : first.DifferOnlyAt id second)
    (foreign : id ∉ Catalog.builtin.map (·.info.id))
    (firstBuilt : Check.engine first = .ok firstEngine)
    (secondBuilt : Check.engine second = .ok secondEngine) :
    firstEngine.rules.size = secondEngine.rules.size := by
  rw [size_rules_engine firstBuilt, size_rules_engine secondBuilt]
  refine congrArg List.length (List.filter_congr fun rule builtin => differ.isEnabled_eq ?_)
  rintro rfl
  exact foreign (List.mem_map_of_mem builtin)

/-- The records of a report on some results are theirs, also those of other rules than a given
one. -/
theorem filter_results_report (settings : EffectiveSettings) (tree : Tree) (rules : RuleSet)
    (results : ResultSet) (startedAt finishedAt : Timestamp) (id : String) :
    ((report settings tree rules results startedAt finishedAt).results.filter
        fun record => record.ruleId != id) =
      (results.entries.filter fun entry => entry.ruleId != id).map record :=
  List.filter_map

end

/-- The report of a check without a budget that nobody cancels tells the entries that are due under
its settings. -/
theorem YieldsUncancelled.exists_report {request : CheckRequest} {startedAt finishedAt : Timestamp}
    {outcome : CheckOutcome} {settings : EffectiveSettings}
    (yields : YieldsUncancelled request startedAt finishedAt outcome)
    (loaded : Settings.load request.settingsText request.overrides = .ok settings)
    (unlimited : settings.ruleBudget = none) :
    ∃ (tree : Tree) (engine : Engine),
      readTree request.treeText = .ok tree ∧ Check.engine settings = .ok engine ∧
        (∀ id address, engine.options.suppressions.suppresses id address =
          Allowlist.patternsCover (settings.allowed id) address) ∧
        outcome.report = report settings tree engine.rules
          { entries := dueEntries settings engine tree, complete := true } startedAt finishedAt := by
  obtain ⟨tree, engine, overruns, loadedAgain, read, built, reported⟩ := yields.exists_engine
  obtain rfl := Except.ok.inj (loaded.symm.trans loadedAgain)
  obtain ⟨budget, suppresses⟩ := options_engine loaded built
  rw [map_resultEntry_workList built (budget.trans unlimited)] at reported
  exact ⟨tree, engine, read, built, suppresses, reported⟩

/-- Two checks of one tree that nobody cancels, under settings without a budget that differ in the
policy of one rule at most, have the same records of all other rules, in one order. If the catalog
has no such rule, all records, the verdict and the figures are the same. If the allowlists compile,
both checks fail alike. -/
theorem sameRecords_of_differOnlyAt {first second : CheckRequest}
    {firstSettings secondSettings : EffectiveSettings} {id : String}
    (sameTree : first.treeText = second.treeText)
    (firstLoaded : Settings.load first.settingsText first.overrides = .ok firstSettings)
    (secondLoaded : Settings.load second.settingsText second.overrides = .ok secondSettings)
    (differ : firstSettings.DifferOnlyAt id secondSettings)
    (unlimited : firstSettings.ruleBudget = none)
    (startedAt finishedAt otherStartedAt otherFinishedAt : Timestamp) :
    (∀ outcome other, YieldsUncancelled first startedAt finishedAt outcome →
        YieldsUncancelled second otherStartedAt otherFinishedAt other →
          (outcome.report.results.filter fun record => record.ruleId != id) =
              other.report.results.filter (fun record => record.ruleId != id) ∧
            (id ∉ Catalog.builtin.map (·.info.id) →
              outcome.report.results = other.report.results ∧
                outcome.report.verdict = other.report.verdict ∧
                outcome.report.data = other.report.data)) ∧
      (firstSettings.GlobSetsCompile → secondSettings.GlobSetsCompile →
        ∀ error, run first startedAt finishedAt = .error error ↔
          run second otherStartedAt otherFinishedAt = .error error) := by
  have profile := congrArg EffectiveSettings.profile differ.general
  have failOn := congrArg EffectiveSettings.failOn differ.general
  have budget := congrArg EffectiveSettings.ruleBudget differ.general
  constructor
  · intro outcome other yields otherYields
    obtain ⟨tree, engine, read, built, suppresses, reported⟩ :=
      yields.exists_report firstLoaded unlimited
    obtain ⟨_, otherEngine, otherRead, otherBuilt, otherSuppresses, otherReported⟩ :=
      otherYields.exists_report secondLoaded (budget.symm.trans unlimited)
    -- both outcomes come from the one tree
    rw [sameTree] at read
    obtain rfl := Except.ok.inj (read.symm.trans otherRead)
    have suppressed : ∀ ruleId, ruleId ≠ id → ∀ address,
        engine.options.suppressions.suppresses ruleId address =
          otherEngine.options.suppressions.suppresses ruleId address := by
      intro ruleId different address
      rw [suppresses, otherSuppresses, differ.allowed_eq different]
    have sameOthers := filter_dueEntries_eq differ suppressed tree
    rw [reported, otherReported]
    refine ⟨?_, fun foreign => ?_⟩
    · rw [filter_results_report, filter_results_report, sameOthers]
    · rw [filter_dueEntries_of_notMem foreign, filter_dueEntries_of_notMem foreign] at sameOthers
      have size := size_rules_eq_of_notMem differ foreign built otherBuilt
      dsimp only at profile failOn
      simp only [report, sameOthers, profile, failOn, size, and_self]
  · intro firstCompiles secondCompiles error
    rw [run_eq_error_iff_readTree firstLoaded firstCompiles,
      run_eq_error_iff_readTree secondLoaded secondCompiles, sameTree]

/-- A group and an account, which another check allows to fail; in a third check a rule that does
not exist is given a severity. -/
theorem sameRecords_of_differOnlyAt_of_account :
    let document : Json := .object
      [("azurerm_network_security_group", .array [.object []]),
        ("azurerm_storage_account", .array [.object []])]
    let under (more : String) : CheckRequest :=
      { treeText := document.render
        settingsText := "[rules]\nGR_AZURE_002.enabled = false\n" ++ more
        overrides := {} }
    let settings (policies : List (String × RulePolicy)) : EffectiveSettings :=
      { rules := [("GR_AZURE_001", {}), ("GR_AZURE_002", { enabled := false })] ++ policies }
    let plain := under ""
    let lenient := under "GR_AZURE_003.allow = [\"*\"]"
    let foreign := under "X.severity = \"info\""
    let plainSettings := settings [("GR_AZURE_003", {})]
    let lenientSettings := settings [("GR_AZURE_003", { allow := ["*"] })]
    let foreignSettings := settings [("GR_AZURE_003", {}), ("X", { severity := some .info })]
    plainSettings.DifferOnlyAt "GR_AZURE_003" lenientSettings ∧
      plainSettings.DifferOnlyAt "X" foreignSettings ∧
      plainSettings.GlobSetsCompile ∧ lenientSettings.GlobSetsCompile ∧
      ∃ outcome lenientOutcome foreignOutcome,
        run plain .epoch .epoch = .ok outcome ∧ outcome.settings = plainSettings ∧
        run lenient .epoch .epoch = .ok lenientOutcome ∧
        lenientOutcome.settings = lenientSettings ∧
        run foreign .epoch .epoch = .ok foreignOutcome ∧
        foreignOutcome.settings = foreignSettings ∧
        outcome.report.results.map (fun record => (record.ruleId, record.outcome)) =
          [("GR_AZURE_001", .passed), ("GR_AZURE_003", .failed)] ∧
        lenientOutcome.report.results.map (fun record => (record.ruleId, record.outcome)) =
          [("GR_AZURE_001", .passed), ("GR_AZURE_003", .skipped)] ∧
        (outcome.report.results.filter fun record => record.ruleId != "GR_AZURE_003") =
          lenientOutcome.report.results.filter (fun record => record.ruleId != "GR_AZURE_003") ∧
        outcome.report.results = foreignOutcome.report.results ∧
        outcome.report.verdict = foreignOutcome.report.verdict ∧
        outcome.report.data = foreignOutcome.report.data ∧
        ∀ error, run plain .epoch .epoch = .error error ↔
          run lenient .epoch .epoch = .error error := by
  intro document under settings plain lenient foreign plainSettings lenientSettings foreignSettings
  have ran : (run plain .epoch .epoch).toOption.map (fun outcome => (outcome.settings,
      outcome.report.results.map fun record => (record.ruleId, record.outcome))) =
        some (plainSettings, [("GR_AZURE_001", .passed), ("GR_AZURE_003", .failed)]) := by
    decide +kernel
  have lenientRan : (run lenient .epoch .epoch).toOption.map (fun outcome => (outcome.settings,
      outcome.report.results.map fun record => (record.ruleId, record.outcome))) =
        some (lenientSettings, [("GR_AZURE_001", .passed), ("GR_AZURE_003", .skipped)]) := by
    decide +kernel
  have foreignRan : (run foreign .epoch .epoch).toOption.map (·.settings) =
      some foreignSettings := by
    decide +kernel
  obtain ⟨outcome, succeeded, told⟩ := map_toOption_eq_some_iff.1 ran
  obtain ⟨lenientOutcome, lenientSucceeded, lenientTold⟩ := map_toOption_eq_some_iff.1 lenientRan
  obtain ⟨foreignOutcome, foreignSucceeded, isForeign⟩ := map_toOption_eq_some_iff.1 foreignRan
  obtain ⟨isPlain, findings⟩ := Prod.mk.inj told
  obtain ⟨isLenient, lenientFindings⟩ := Prod.mk.inj lenientTold
  have yields := yieldsUncancelled_of_run rfl succeeded
  have lenientYields := yieldsUncancelled_of_run rfl lenientSucceeded
  have foreignYields := yieldsUncancelled_of_run rfl foreignSucceeded
  obtain ⟨_, _, _, loaded, _⟩ := yields.exists_engine
  obtain ⟨_, _, _, lenientLoaded, _⟩ := lenientYields.exists_engine
  obtain ⟨_, _, _, foreignLoaded, _⟩ := foreignYields.exists_engine
  rw [isPlain] at loaded
  rw [isLenient] at lenientLoaded
  rw [isForeign] at foreignLoaded
  have differ : plainSettings.DifferOnlyAt "GR_AZURE_003" lenientSettings :=
    EffectiveSettings.differOnlyAt_of_filter rfl (by decide)
  have foreignDiffer : plainSettings.DifferOnlyAt "X" foreignSettings :=
    EffectiveSettings.differOnlyAt_of_filter rfl (by decide)
  have compile : plainSettings.GlobSetsCompile := by decide +kernel
  have lenientCompile : lenientSettings.GlobSetsCompile := by decide +kernel
  have sameTree : plain.treeText = lenient.treeText := rfl
  have foreignSameTree : plain.treeText = foreign.treeText := rfl
  obtain ⟨sameOthers, failAlike⟩ := sameRecords_of_differOnlyAt sameTree loaded lenientLoaded
    differ rfl .epoch .epoch .epoch .epoch
  obtain ⟨same, _⟩ := sameRecords_of_differOnlyAt foreignSameTree loaded foreignLoaded
    foreignDiffer rfl .epoch .epoch .epoch .epoch
  have unknown : "X" ∉ Catalog.builtin.map (·.info.id) := by decide
  obtain ⟨results, verdict, data⟩ := (same outcome foreignOutcome yields foreignYields).2 unknown
  exact ⟨differ, foreignDiffer, compile, lenientCompile, outcome, lenientOutcome, foreignOutcome,
    succeeded, isPlain, lenientSucceeded, isLenient, foreignSucceeded, isForeign, findings,
    lenientFindings, (sameOthers outcome lenientOutcome yields lenientYields).1, results, verdict,
    data, failAlike compile lenientCompile⟩

end Check

end ConfigAudit
