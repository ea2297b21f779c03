import ConfigAudit.Json.Printer
import ConfigAudit.Proofs.Check.Consistency
import ConfigAudit.Proofs.Check.Listing

/-!
# The profile that only warns

Under the profile `warn` each rule of the catalog starts with the severity of a warning. A settings
file that names no error for any of them keeps it that way, whatever else it says, so that no failure
is severe enough to fail a run: `Check.verdict_ne_fail_of_warn`.
-/

namespace ConfigAudit

namespace Severity

theorem eq_error_of_le {severity : Severity} (grave : error ≤ severity) : severity = error := by
  cases severity with
  | error => rfl
  | info | warning => exact absurd grave (by decide)

/-- There is one name for the severity of an error. -/
theorem eq_error_of_ofSetting? {name : String} (named : ofSetting? name = some .error) :
    name = "error" := by
  unfold ofSetting? at named
  split at named
  case isTrue => cases named
  case isFalse =>
    have told : (Choice.name error == name) = true :=
      List.find?_some (p := (Choice.name · == name)) named
    exact (eq_of_beq told).symm

end Severity

namespace Settings

theorem eq_error_of_chooseSeverity {id : String} {name : Option String}
    (chosen : chooseSeverity id name = .ok (some .error)) : name = some "error" := by
  unfold chooseSeverity at chosen
  split at chosen
  case h_1 => cases chosen
  case h_2 name =>
    split at chosen
    case h_1 severity named =>
      cases chosen
      rw [Severity.eq_error_of_ofSetting? named]
    case h_2 => cases chosen

/-- Only an error fails a run unless something else is named. -/
theorem failOn_eq_error_of_chooseFailOn {name : Option String} {failOn : FailOn}
    (unnamed : name = none ∨ name = some "error") (chosen : chooseFailOn name = .ok failOn) :
    failOn = .error := by
  rcases unnamed with rfl | rfl
  · exact (Except.ok.inj chosen).symm
  · exact (Except.ok.inj chosen).symm

/-- Each rule of the catalog is given a severity, and one below that of an error. -/
def AreMild (policies : List (String × RulePolicy)) : Prop :=
  ∀ rule ∈ Catalog.builtin, ∃ severity,
    (policies.lookup rule.info.id).bind RulePolicy.severity = some severity ∧ severity ≠ .error

theorem areMild_presetPolicies_warn : AreMild (presetPolicies .warn) := by
  intro rule builtin
  refine ⟨.warning, ?_, nofun⟩
  rw [lookup_presetPolicies .warn rule builtin]
  rfl

/-- A table does not give a rule of the catalog the severity of an error. -/
def NamesNoError (entry : String × RuleSettings) : Prop :=
  entry.1 ∈ Catalog.builtin.map (·.info.id) → entry.2.severity ≠ some "error"

instance (entry : String × RuleSettings) : Decidable (NamesNoError entry) :=
  inferInstanceAs (Decidable (_ → _))

/-- A table that names no error for a rule of the catalog leaves the severities mild. -/
theorem AreMild.mergeRule {policies merged : List (String × RulePolicy)}
    {entry : String × RuleSettings} (mild : AreMild policies)
    (noError : NamesNoError entry)
    (changed : Settings.mergeRule policies entry = .ok merged) : AreMild merged := by
  obtain ⟨_, changedPolicy, rfl⟩ := mergeRule_eq_ok_iff.1 changed
  obtain ⟨given, chosen, _, rfl⟩ := mergePolicy_eq_ok_iff.1 changedPolicy
  intro rule builtin
  obtain ⟨severity, own, slight⟩ := mild rule builtin
  rw [Members.lookup_insert]
  split
  case isTrue same =>
    cases given with
    | none =>
      -- the table names no severity, so the rule keeps the one it has
      obtain ⟨policy, found, kept⟩ := Option.bind_eq_some_iff.1 own
      refine ⟨severity, ?_, slight⟩
      rw [← same, found]
      exact kept
    | some named =>
      refine ⟨named, rfl, ?_⟩
      rintro rfl
      exact noError (List.mem_map.2 ⟨rule, builtin, same⟩) (eq_error_of_chooseSeverity chosen)
  case isFalse => exact ⟨severity, own, slight⟩

/-- Severities stay mild under the profile that only warns, if the file names no error. -/
theorem areMild_of_resolve {file : SettingsFile} {overrides : Overrides}
    {settings : EffectiveSettings} (resolved : resolve file overrides = .ok settings)
    (warns : settings.profile = .warn)
    (noError : ∀ entry ∈ file.rules, NamesNoError entry) : AreMild settings.rules := by
  obtain ⟨_, _, _, merged, _⟩ := resolve_eq_ok_iff.1 resolved
  rw [warns] at merged
  refine holds_of_foldlM_eq_ok_of_mem ?_ areMild_presetPolicies_warn merged
  intro entry member before after mild changed
  exact mild.mergeRule (noError entry member) changed

end Settings

namespace Check

/-- Under mild severities no record has that of an error. -/
theorem Yields.severity_ne_error {request : CheckRequest} {startedAt finishedAt : Timestamp}
    {outcome : CheckOutcome} (yields : Yields request startedAt finishedAt outcome)
    (mild : Settings.AreMild outcome.settings.rules) {record : ResultRecord}
    (member : record ∈ outcome.report.results) : record.severity ≠ .error := by
  obtain ⟨rule, selected, describes⟩ := yields.exists_rule member
  obtain ⟨original, builtin, _, rfl⟩ := (Catalog.mem_select_iff outcome.settings).1 selected
  obtain ⟨severity, own, slight⟩ := mild original builtin
  have given : outcome.settings.severity? original.info.id = some severity := own
  have adjusted : (Catalog.adjust outcome.settings original).info.severity = severity := by
    rw [Catalog.info_adjust, given]
    rfl
  rw [← describes.severity]
  exact fun grave => slight (adjusted.symm.trans grave)

/-- Under the profile that only warns a check never fails, as long as the settings file names no
error as the severity of a rule of the catalog and nothing less as what fails a run. -/
theorem verdict_ne_fail_of_warn {request : CheckRequest} {startedAt finishedAt : Timestamp}
    {outcome : CheckOutcome} {file : SettingsFile}
    (yields : Yields request startedAt finishedAt outcome)
    (warns : outcome.settings.profile = .warn)
    (read : SettingsFile.read request.settingsText = .ok file)
    (noError : ∀ entry ∈ file.rules, Settings.NamesNoError entry)
    (failOn : file.failOn = none ∨ file.failOn = some "error") :
    outcome.report.verdict ≠ .fail ∧ exitCode outcome.report.verdict = 0 := by
  obtain ⟨_, _, _, loaded, _⟩ := yields.exists_engine
  obtain ⟨_, readAgain, resolved⟩ := Settings.load_eq_ok_iff.1 loaded
  obtain rfl := Except.ok.inj (read.symm.trans readAgain)
  obtain ⟨_, _, _, _, least⟩ := Settings.resolve_eq_ok_iff.1 resolved
  have mild := Settings.areMild_of_resolve resolved warns noError
  have notFail : outcome.report.verdict ≠ .fail := by
    intro fails
    rw [yields.verdict_eq, Settings.failOn_eq_error_of_chooseFailOn failOn least,
      Verdict.ofFindings_eq_fail_iff] at fails
    obtain ⟨finding, member, _, grave⟩ := fails
    obtain ⟨record, ofReport, rfl⟩ := List.mem_map.1 member
    exact yields.severity_ne_error mild ofReport (Severity.eq_error_of_le grave)
  refine ⟨notFail, ?_⟩
  cases verdict : outcome.report.verdict with
  | pass | warn => rfl
  | fail => exact absurd verdict notFail

/-- An account that fails a rule, under settings that disable another rule and name an error for a
rule that does not exist. -/
theorem verdict_ne_fail_of_warn_of_account :
    let document : Json := .object [("azurerm_storage_account", .array [.object []])]
    let request : CheckRequest :=
      { treeText := document.render
        settingsText := "[rules]\nGR_AZURE_002.enabled = false\nX.severity = \"error\""
        overrides := { profile := some "warn" } }
    ∃ outcome file, run request .epoch .epoch = .ok outcome ∧
      outcome.settings.profile = .warn ∧
      SettingsFile.read request.settingsText = .ok file ∧
      (∀ entry ∈ file.rules, Settings.NamesNoError entry) ∧ file.failOn = none ∧
      outcome.report.findings = [(.warning, .failed)] ∧
      outcome.report.verdict ≠ .fail ∧ exitCode outcome.report.verdict = 0 := by
  intro document request
  have ran : (run request .epoch .epoch).toOption.map
      (fun outcome => (outcome.settings.profile, outcome.report.findings)) =
        some (.warn, [(.warning, .failed)]) := by
    decide +kernel
  have said : (SettingsFile.read request.settingsText).toOption.map
      (fun file => decide ((∀ entry ∈ file.rules, Settings.NamesNoError entry) ∧
        file.failOn = none)) = some true := by
    decide +kernel
  obtain ⟨outcome, succeeded, told⟩ := map_toOption_eq_some_iff.1 ran
  obtain ⟨file, successful, decided⟩ := map_toOption_eq_some_iff.1 said
  obtain ⟨warns, findings⟩ := Prod.mk.inj told
  obtain ⟨noError, failOn⟩ := of_decide_eq_true decided
  have yields := yields_of_run succeeded
  exact ⟨outcome, file, succeeded, warns, successful, noError, failOn, findings,
    verdict_ne_fail_of_warn yields warns successful noError (.inl failOn)⟩

end Check

end ConfigAudit
