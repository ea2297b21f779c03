import ConfigAudit.Check
import ConfigAudit.Proofs.Except
import ConfigAudit.Proofs.Rule.Catalog
import ConfigAudit.Proofs.Schedule
import ConfigAudit.Proofs.Suppressions

/-!
# The outcomes of a check

What comes of a check depends on more than what it is asked for: on the workers, on who cancels the
run and when, and on which judgements take too long. `Check.Yields` holds of every outcome that can
come of it, `Check.YieldsUncancelled` of those that it comes to if nobody cancels it, and `Check.run`
returns one of them. What every such outcome has in common can be read off the engine, whose rules
are those that the settings select from the catalog.
-/

namespace ConfigAudit

namespace Schedule

variable {workers : Nat} {result : WorkItem → ResultEntry} {items : List WorkItem}
  {cancelled : Bool} {moves : List Move} {moment : Moment}

/-- Whatever is left out of a run, the results come in the order of the work list. -/
theorem entries_sublist_of_play
    (played : play? workers result items cancelled moves = some moment)
    (ended : moment.isOver = true) : moment.results.entries.Sublist (items.map result) := by
  rw [(records_of_play played).entries_of_isOver ended, ← map_zipIdx]
  exact List.filter_sublist.map _

/-- A complete run has the result of each item. -/
theorem entries_eq_of_complete
    (played : play? workers result items cancelled moves = some moment)
    (ended : moment.isOver = true) (complete : moment.results.complete = true) :
    moment.results.entries = items.map result := by
  have filled := List.filterMap_length_eq_length.2 (List.all_eq_true.1 complete)
  have sizes : (moment.slots.map Slot.result?).length = (items.map result).length := by
    rw [List.length_map, List.length_map, (records_of_play played).size]
  exact (entries_sublist_of_play played ended).eq_of_length (filled.trans sizes)

end Schedule

namespace Check

variable {settings : EffectiveSettings} {engine : Engine} {request : CheckRequest}
  {startedAt finishedAt : Timestamp} {outcome : CheckOutcome}

/-- An engine is built from the rule set and the options under the settings. -/
theorem engine_eq_ok_iff :
    Check.engine settings = .ok engine ↔
      ∃ rules options, Catalog.ruleSet settings Catalog.builtin = .ok rules ∧
        EngineOptions.ofSettings settings = .ok options ∧ engine = { rules, options } := by
  simp only [Check.engine, bind_eq_ok, mapError_eq_ok]
  constructor
  · rintro ⟨rules, ruleSet, options, compiled, ⟨⟩⟩
    exact ⟨rules, options, ruleSet, compiled, rfl⟩
  · rintro ⟨rules, options, ruleSet, compiled, rfl⟩
    exact ⟨rules, ruleSet, options, compiled, rfl⟩

/-- The rules of an engine are those that the settings select from the catalog. -/
theorem rules_engine (built : Check.engine settings = .ok engine) :
    engine.rules.Indexed ∧ engine.rules.rules = Catalog.select settings Catalog.builtin := by
  obtain ⟨rules, _, ruleSet, _, rfl⟩ := engine_eq_ok_iff.1 built
  exact Catalog.indexed_of_ruleSet settings ruleSet

/-- The work list of a check pairs each resource with the rules that are due for its kind. -/
theorem workList_engine (built : Check.engine settings = .ok engine) (tree : Tree) :
    engine.workList tree = tree.resources.flatMap fun (resource, attributes) =>
      (Catalog.dueRules settings resource.kind).map fun rule =>
        { resource, attributes, rule := Catalog.adjust settings rule } := by
  obtain ⟨indexed, rules⟩ := rules_engine built
  simp only [Engine.workList_eq indexed, rules, Catalog.filter_includes_select, List.map_map,
    Function.comp_def]

/-- There are as many rules in an engine as the settings enable. -/
theorem size_rules_engine (built : Check.engine settings = .ok engine) :
    engine.rules.size =
      (Catalog.builtin.filter fun rule => settings.isEnabled rule.info.id).length := by
  rw [RuleSet.size, (rules_engine built).2, Catalog.select, List.length_map]

/-- The engine under settings has their budget, and suppresses what the patterns of a rule
cover. -/
theorem options_engine {text : String} {overrides : Overrides}
    (loaded : Settings.load text overrides = .ok settings)
    (built : Check.engine settings = .ok engine) :
    engine.options.budget = settings.ruleBudget ∧ ∀ id address,
      engine.options.suppressions.suppresses id address =
        Allowlist.patternsCover (settings.allowed id) address := by
  obtain ⟨file, _, resolved⟩ := Settings.load_eq_ok_iff.1 loaded
  obtain ⟨_, options, _, compiled, rfl⟩ := engine_eq_ok_iff.1 built
  exact EngineOptions.of_ofSettings (Settings.sorted_rules_of_resolve resolved) compiled

/-- The outcomes that can come of a check: its report tells the results of any run over the work
list that workers can bring to its end, with any judgements taking too long. -/
inductive Yields (request : CheckRequest) (startedAt finishedAt : Timestamp)
    (outcome : CheckOutcome) : Prop where
  | intro {tree : Tree} {engine : Engine} {workers : Nat} {overruns : WorkItem → Bool}
      {moves : List Schedule.Move} {moment : Schedule.Moment}
      (loaded : Settings.load request.settingsText request.overrides = .ok outcome.settings)
      (read : readTree request.treeText = .ok tree)
      (built : Check.engine outcome.settings = .ok engine)
      (played : Schedule.play? workers (engine.resultEntry overruns) (engine.workList tree)
        request.cancelled moves = some moment)
      (ended : moment.isOver = true)
      (reported : outcome.report =
        report outcome.settings tree engine.rules moment.results startedAt finishedAt)

/-- The outcomes that can come of a check that nobody cancels, neither before it starts nor while
the workers make their moves. -/
inductive YieldsUncancelled (request : CheckRequest) (startedAt finishedAt : Timestamp)
    (outcome : CheckOutcome) : Prop where
  | intro {tree : Tree} {engine : Engine} {workers : Nat} {overruns : WorkItem → Bool}
      {moves : List Schedule.Move} {moment : Schedule.Moment}
      (loaded : Settings.load request.settingsText request.overrides = .ok outcome.settings)
      (read : readTree request.treeText = .ok tree)
      (built : Check.engine outcome.settings = .ok engine)
      (fresh : request.cancelled = false)
      (played : Schedule.play? workers (engine.resultEntry overruns) (engine.workList tree)
        false moves = some moment)
      (uncancelled : .cancel ∉ moves)
      (ended : moment.isOver = true)
      (reported : outcome.report =
        report outcome.settings tree engine.rules moment.results startedAt finishedAt)

/-- A check comes to an outcome if the settings, the tree and the engine can be had. -/
theorem run_eq_ok_iff :
    run request startedAt finishedAt = .ok outcome ↔
      ∃ tree engine,
        Settings.load request.settingsText request.overrides = .ok outcome.settings ∧
          readTree request.treeText = .ok tree ∧
          Check.engine outcome.settings = .ok engine ∧
          outcome.report = report outcome.settings tree engine.rules
            (engine.run tree {} request.cancelled).results startedAt finishedAt := by
  simp only [run, bind_eq_ok, mapError_eq_ok]
  constructor
  · rintro ⟨settings, loaded, tree, read, engine, built, ⟨⟩⟩
    exact ⟨tree, engine, loaded, read, built, rfl⟩
  · rintro ⟨tree, engine, loaded, read, built, reported⟩
    exact ⟨_, loaded, tree, read, engine, built, by rw [← reported]; rfl⟩

/-- What one worker comes to who judges in order is an outcome that can come of a check. -/
theorem yields_of_run (ran : run request startedAt finishedAt = .ok outcome) :
    Yields request startedAt finishedAt outcome := by
  obtain ⟨tree, engine, loaded, read, built, reported⟩ := run_eq_ok_iff.1 ran
  obtain ⟨moves, moment, played, ended, results, _⟩ :=
    Schedule.exists_play_of_run engine tree {} request.cancelled
  exact .intro loaded read built played ended (results ▸ reported)

/-- The rules of a check never cancel it. -/
theorem undisturbed_engine (built : Check.engine settings = .ok engine) (tree : Tree) :
    engine.Undisturbed tree {} false := by
  refine Engine.undisturbed_of_calm ?_ tree fun _ => false
  rw [(rules_engine built).2]
  intro rule selected attributes
  obtain ⟨original, builtin, _, rfl⟩ := (Catalog.mem_select_iff settings).1 selected
  rw [Catalog.cancels_adjust, Catalog.cancels_of_mem_builtin builtin]

/-- So does one worker in a check that is not cancelled before it starts. -/
theorem yieldsUncancelled_of_run (fresh : request.cancelled = false)
    (ran : run request startedAt finishedAt = .ok outcome) :
    YieldsUncancelled request startedAt finishedAt outcome := by
  obtain ⟨tree, engine, loaded, read, built, reported⟩ := run_eq_ok_iff.1 ran
  rw [fresh] at reported
  obtain ⟨moves, moment, played, ended, results, calm⟩ :=
    Schedule.exists_play_of_run engine tree {} false
  exact .intro loaded read built fresh played (calm (undisturbed_engine built tree)) ended
    (results ▸ reported)

/-- The outcomes of a check that nobody cancels are among its outcomes. -/
theorem YieldsUncancelled.yields (yields : YieldsUncancelled request startedAt finishedAt outcome) :
    Yields request startedAt finishedAt outcome := by
  obtain ⟨loaded, read, built, fresh, played, _, ended, reported⟩ := yields
  exact .intro loaded read built (fresh ▸ played) ended reported

/-- The report of a check that nobody cancels tells the results of all items of the work list. -/
theorem YieldsUncancelled.exists_engine
    (yields : YieldsUncancelled request startedAt finishedAt outcome) :
    ∃ (tree : Tree) (engine : Engine) (overruns : WorkItem → Bool),
      Settings.load request.settingsText request.overrides = .ok outcome.settings ∧
        readTree request.treeText = .ok tree ∧
        Check.engine outcome.settings = .ok engine ∧
        outcome.report = report outcome.settings tree engine.rules
          { entries := (engine.workList tree).map (engine.resultEntry overruns), complete := true }
          startedAt finishedAt := by
  obtain ⟨loaded, read, built, _, played, uncancelled, ended, reported⟩ := yields
  have results := (Schedule.records_of_play played).results_of_fresh ended uncancelled
  exact ⟨_, _, _, loaded, read, built, results ▸ reported⟩

/-- A report tells the results of some items of the work list, in its order, and of all of them if
the run is complete. -/
theorem Yields.exists_results (yields : Yields request startedAt finishedAt outcome) :
    ∃ (tree : Tree) (engine : Engine) (overruns : WorkItem → Bool) (results : ResultSet),
      Settings.load request.settingsText request.overrides = .ok outcome.settings ∧
        readTree request.treeText = .ok tree ∧
        Check.engine outcome.settings = .ok engine ∧
        results.entries.Sublist ((engine.workList tree).map (engine.resultEntry overruns)) ∧
        (results.complete = true →
          results.entries = (engine.workList tree).map (engine.resultEntry overruns)) ∧
        outcome.report = report outcome.settings tree engine.rules results startedAt finishedAt := by
  obtain ⟨loaded, read, built, played, ended, reported⟩ := yields
  exact ⟨_, _, _, _, loaded, read, built, Schedule.entries_sublist_of_play played ended,
    Schedule.entries_eq_of_complete played ended, reported⟩

/-- The records of a report are the records of some items of the work list, in its order. -/
theorem Yields.exists_engine (yields : Yields request startedAt finishedAt outcome) :
    ∃ tree engine overruns,
      Settings.load request.settingsText request.overrides = .ok outcome.settings ∧
        readTree request.treeText = .ok tree ∧
        Check.engine outcome.settings = .ok engine ∧
        outcome.report.data.rulesLoaded = UInt32.ofNat engine.rules.size ∧
        outcome.report.results.Sublist
          ((engine.workList tree).map fun item => record (engine.resultEntry overruns item)) := by
  obtain ⟨tree, engine, overruns, results, loaded, read, built, entries, _, reported⟩ :=
    yields.exists_results
  have records := entries.map record
  rw [List.map_map] at records
  refine ⟨tree, engine, overruns, loaded, read, built, ?_, ?_⟩
  · rw [reported]
    rfl
  · rw [reported]
    exact records

end Check

end ConfigAudit
