import ConfigAudit.Json.Printer
import ConfigAudit.Proofs.Check.Failure
import ConfigAudit.Rule.Listing

/-!
# The listing and the check

A listing looks up what the settings say of each rule of the catalog; a check selects and changes
the rules themselves. Both start from the same settings and come to the same rules: the enabled
listings are those of the rules of the run, and every record of a report is told by one of them.
-/

namespace ConfigAudit

namespace RuleListing

variable {settings : EffectiveSettings} {settingsText : String} {overrides : Overrides}

/-- The listing of a rule of a run, which has the severity that the settings give it. -/
def ofRegistered (rule : Rule) : RuleListing where
  id := rule.info.id
  name := rule.info.name
  category := rule.info.category
  severity := rule.info.severity
  kinds := rule.info.kinds.toList
  absence := rule.info.absence
  enabled := true

/-- A listing tells of the rule of a record. -/
structure Describes (listing : RuleListing) (record : ResultRecord) : Prop where
  id : listing.id = record.ruleId
  name : listing.name = record.ruleName
  category : listing.category = record.category
  severity : listing.severity = record.severity

/-- An enabled rule is listed as it is in a run. -/
theorem ofRule_of_isEnabled {rule : Rule} (enabled : settings.isEnabled rule.info.id = true) :
    ofRule settings rule = ofRegistered (Catalog.adjust settings rule) := by
  simp only [ofRule, ofRegistered, Catalog.info_adjust, enabled]

/-- The enabled listings are those of the rules that the settings select. -/
theorem filter_enabled_catalog (settings : EffectiveSettings) :
    (catalog settings).filter (·.enabled) =
      (Catalog.select settings Catalog.builtin).map ofRegistered := by
  rw [catalog, List.filter_map, Catalog.select, List.map_map]
  apply List.map_congr_left
  intro rule member
  exact ofRule_of_isEnabled (List.mem_filter.1 member).2

/-- No two listings have the same identifier. -/
theorem nodup_ids_catalog (settings : EffectiveSettings) :
    ((catalog settings).map (·.id)).Nodup := by
  rw [catalog, List.map_map]
  exact Catalog.nodup_ids_builtin

/-- Listings are refused for the same reason as the settings. -/
theorem load_eq_error_iff {fault : SettingsFault} :
    load settingsText overrides = .error fault ↔
      Settings.load settingsText overrides = .error fault := by
  rw [load, bind_eq_error]
  exact or_iff_left nofun

theorem load_eq_ok_iff {listings : List RuleListing} :
    load settingsText overrides = .ok listings ↔
      ∃ settings, Settings.load settingsText overrides = .ok settings ∧
        catalog settings = listings := by
  rw [load, bind_eq_ok]
  constructor
  · rintro ⟨settings, loaded, ⟨⟩⟩
    exact ⟨settings, loaded, rfl⟩
  · rintro ⟨settings, loaded, rfl⟩
    exact ⟨settings, loaded, rfl⟩

end RuleListing

namespace Check

variable {request : CheckRequest} {startedAt finishedAt : Timestamp} {outcome : CheckOutcome}

/-- Neither the rule set nor the allowlists are told as a fault of the settings. -/
theorem engine_ne_settings_error {settings : EffectiveSettings} {fault : SettingsFault} :
    Check.engine settings ≠ .error (.settings fault) := by
  intro failed
  simp only [Check.engine, bind_eq_error, mapError_eq_error] at failed
  obtain ⟨_, _, impossible⟩ | ⟨_, _, ⟨_, _, impossible⟩ | ⟨_, _, impossible⟩⟩ := failed
  all_goals cases impossible

/-- A check fails because of its settings iff they cannot be loaded. -/
theorem run_eq_settings_error_iff {fault : SettingsFault} :
    run request startedAt finishedAt = .error (.settings fault) ↔
      Settings.load request.settingsText request.overrides = .error fault := by
  simp only [run, bind_eq_error, mapError_eq_error, mapError_eq_ok]
  constructor
  · rintro (⟨_, failed, ⟨⟩⟩ | ⟨settings, _, unread | ⟨_, _, noEngine | ⟨_, _, impossible⟩⟩⟩)
    · exact failed
    · rcases readTree_eq_error_iff.1 unread with fails | fails <;> cases fails
    · exact absurd noEngine engine_ne_settings_error
    · cases impossible
  · intro failed
    exact .inl ⟨fault, failed, rfl⟩

/-- A record tells of a rule that the settings select. -/
theorem Yields.exists_rule (yields : Yields request startedAt finishedAt outcome)
    {record : ResultRecord} (member : record ∈ outcome.report.results) :
    ∃ rule ∈ Catalog.select outcome.settings Catalog.builtin,
      (RuleListing.ofRegistered rule).Describes record := by
  obtain ⟨tree, engine, overruns, _, _, built, _, ofWorkList⟩ := yields.exists_engine
  obtain ⟨item, ofItem, rfl⟩ := List.mem_map.1 (ofWorkList.subset member)
  refine ⟨item.rule, ?_, ⟨rfl, rfl, rfl, rfl⟩⟩
  rw [← (rules_engine built).2]
  exact Engine.rule_mem_of_mem_workList ofItem

/-- A report tells how many rules the settings select. -/
theorem Yields.rulesLoaded_eq (yields : Yields request startedAt finishedAt outcome) :
    outcome.report.data.rulesLoaded.toNat =
      (Catalog.select outcome.settings Catalog.builtin).length := by
  obtain ⟨tree, engine, overruns, _, _, built, loaded, _⟩ := yields.exists_engine
  have few : (Catalog.select outcome.settings Catalog.builtin).length ≤ Catalog.builtin.length := by
    have ids := (Catalog.ids_select_sublist outcome.settings Catalog.builtin).length_le
    simpa using ids
  rw [loaded, RuleSet.size, (rules_engine built).2]
  exact UInt32.toNat_ofNat_of_lt (Nat.lt_of_le_of_lt few (by decide))

/-- Listings can be had unless a check fails because of its settings, and are refused with the same
fault. The enabled ones are those of the rules of the run, in order. A report tells how many they
are; each of its records is told by one of them, and none by a disabled one. -/
theorem listings_agree_with_run (settingsText : String) (overrides : Overrides)
    (startedAt finishedAt : Timestamp) :
    (∀ fault treeText cancelled,
        RuleListing.load settingsText overrides = .error fault ↔
          run { treeText, settingsText, overrides, cancelled } startedAt finishedAt =
            .error (.settings fault)) ∧
      ∀ listings, RuleListing.load settingsText overrides = .ok listings →
        ∃ settings rules, Settings.load settingsText overrides = .ok settings ∧
          Catalog.ruleSet settings Catalog.builtin = .ok rules ∧
          listings.filter (·.enabled) = rules.rules.map RuleListing.ofRegistered ∧
          ∀ treeText cancelled outcome,
            Yields { treeText, settingsText, overrides, cancelled } startedAt finishedAt outcome →
              outcome.report.data.rulesLoaded.toNat = (listings.filter (·.enabled)).length ∧
                ∀ record ∈ outcome.report.results,
                  (∃ listing ∈ listings, listing.enabled = true ∧ listing.Describes record) ∧
                    ∀ listing ∈ listings, listing.enabled = false →
                      listing.id ≠ record.ruleId := by
  constructor
  · intro fault treeText cancelled
    rw [RuleListing.load_eq_error_iff, run_eq_settings_error_iff]
  · intro listings listed
    obtain ⟨settings, loaded, rfl⟩ := RuleListing.load_eq_ok_iff.1 listed
    have ruleSet := Catalog.ruleSet_builtin settings
    have enabledListings := RuleListing.filter_enabled_catalog settings
    refine ⟨settings, _, loaded, ruleSet, ?_, ?_⟩
    · rw [enabledListings, (Catalog.indexed_of_ruleSet settings ruleSet).2]
    · intro treeText cancelled outcome yields
      obtain ⟨_, _, _, same, _⟩ := yields.exists_engine
      obtain rfl : settings = outcome.settings := Except.ok.inj (loaded.symm.trans same)
      constructor
      · rw [yields.rulesLoaded_eq, enabledListings, List.length_map]
      · intro record member
        obtain ⟨rule, selected, describes⟩ := yields.exists_rule member
        have listing : RuleListing.ofRegistered rule ∈
            (RuleListing.catalog outcome.settings).filter (·.enabled) := by
          rw [enabledListings]
          exact List.mem_map_of_mem selected
        obtain ⟨ofCatalog, enabled⟩ := List.mem_filter.1 listing
        refine ⟨⟨_, ofCatalog, enabled, describes⟩, ?_⟩
        intro other otherOfCatalog disabled sameId
        have identical := List.inj_on_of_nodup_map (RuleListing.nodup_ids_catalog outcome.settings)
          otherOfCatalog ofCatalog (sameId.trans describes.id.symm)
        rw [identical] at disabled
        cases disabled

/-- A rule that is disabled beside one with another severity, and an account that is judged by the
other one only. -/
theorem listings_agree_with_run_of_disabled_rule :
    let document : Json := .object [("azurerm_storage_account", .array [.object []])]
    let request : CheckRequest :=
      { treeText := document.render
        settingsText :=
          "[rules]\nGR_AZURE_002.enabled = false\nGR_AZURE_003.severity = \"info\""
        overrides := { profile := some "warn" } }
    ∃ listings outcome, RuleListing.load request.settingsText request.overrides = .ok listings ∧
      run request .epoch .epoch = .ok outcome ∧
      listings.map (fun listing => (listing.id, listing.severity, listing.enabled)) =
        [("GR_AZURE_001", .warning, true), ("GR_AZURE_002", .warning, false),
          ("GR_AZURE_003", .info, true)] ∧
      outcome.report.data.rulesLoaded.toNat = 2 ∧
      outcome.report.results.map (·.ruleId) = ["GR_AZURE_003"] ∧
      ∀ record ∈ outcome.report.results, ∃ listing ∈ listings, listing.Describes record := by
  intro document request
  have listed : (RuleListing.load request.settingsText request.overrides).toOption.map
      (·.map fun listing => (listing.id, listing.severity, listing.enabled)) = some
        [("GR_AZURE_001", .warning, true), ("GR_AZURE_002", .warning, false),
          ("GR_AZURE_003", .info, true)] := by
    decide +kernel
  have ran : (run request .epoch .epoch).toOption.map
      (fun outcome => outcome.report.results.map (·.ruleId)) = some ["GR_AZURE_003"] := by
    decide +kernel
  obtain ⟨listings, loaded, told⟩ := Option.map_eq_some_iff.1 listed
  obtain ⟨outcome, succeeded, ids⟩ := Option.map_eq_some_iff.1 ran
  rw [toOption_eq_some_iff] at loaded succeeded
  obtain ⟨_, _, _, _, _, agrees⟩ :=
    (listings_agree_with_run request.settingsText request.overrides .epoch .epoch).2 _ loaded
  obtain ⟨number, records⟩ := agrees request.treeText false outcome (yields_of_run succeeded)
  refine ⟨listings, outcome, loaded, succeeded, told, ?_, ids, ?_⟩
  · have enabled := congrArg (fun entries => (entries.filter fun entry => entry.2.2).length) told
    rw [number]
    simpa [List.filter_map, Function.comp_def] using enabled
  · intro record member
    obtain ⟨⟨listing, ofCatalog, _, describes⟩, _⟩ := records record member
    exact ⟨listing, ofCatalog, describes⟩

end Check

end ConfigAudit
