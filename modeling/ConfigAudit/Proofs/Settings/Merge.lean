import ConfigAudit.Proofs.Check.Locality
import ConfigAudit.Proofs.Rule.Catalog
import ConfigAudit.Proofs.Settings.Resolve

/-!
# Merging field by field

Settings that take effect are put together field by field. `EffectiveSettings.Merges` says of each
field where it comes from: the command line, the settings file or the defaults, and of a rule the
table of this rule or its profile. A table changes no policy but the one of its rule, and no field of
this policy that it does not give: `Settings.resolve_merges_fields`.
-/

namespace ConfigAudit

namespace Severity

/-- The names of the severities in a settings file. -/
def settingNames : List (String × Severity) :=
  [("info", .info), ("warning", .warning), ("warn", .warning), ("error", .error)]

theorem ofSetting?_eq_some_iff {name : String} {severity : Severity} :
    ofSetting? name = some severity ↔ (name, severity) ∈ settingNames := by
  by_cases short : name = "warn"
  · subst short
    simp [ofSetting?, settingNames, eq_comm]
  · simp only [ofSetting?, Choice.ofName?, Choice.all, Choice.name, List.find?, settingNames,
      List.mem_cons, Prod.mk.injEq]
    cases severity <;> grind [Severity.name]

end Severity

namespace FailOn

/-- The names of the least failing severities in a settings file. -/
def settingNames : List (String × FailOn) :=
  [("error", .error), ("warning", .warning), ("warn", .warning)]

theorem ofSetting?_eq_some_iff {name : String} {failOn : FailOn} :
    ofSetting? name = some failOn ↔ (name, failOn) ∈ settingNames := by
  by_cases short : name = "warn"
  · subst short
    simp [ofSetting?, settingNames, eq_comm]
  · simp only [ofSetting?, Choice.ofName?, Choice.all, Choice.name, List.find?, settingNames,
      List.mem_cons, Prod.mk.injEq]
    cases failOn <;> grind [FailOn.name]

end FailOn

namespace SettingsFile

/-- Two files differ at most in the table of one rule. Either of them may have no such table. -/
structure DifferOnlyAt (id : String) (first second : SettingsFile) : Prop where
  /-- What they say beside the tables is the same. -/
  general : { first with rules := second.rules } = second
  table : ∀ other, other ≠ id → first.rules.lookup other = second.rules.lookup other

end SettingsFile

namespace RulePolicy

/-- What a policy takes from the table of its rule, if there is one, and what from the profile. -/
structure Merges (profile : Profile) (id : String) (table : Option RuleSettings)
    (policy : RulePolicy) : Prop where
  enabled : policy.enabled = (table.bind RuleSettings.enabled).getD true
  givenSeverity : ∀ name, table.bind RuleSettings.severity = some name →
    ∃ severity, policy.severity = some severity ∧ (name, severity) ∈ Severity.settingNames
  defaultSeverity : table.bind RuleSettings.severity = none →
    policy.severity =
      if profile = .warn ∧ id ∈ Catalog.builtin.map (·.info.id) then some .warning else none
  allow : policy.allow = (table.map RuleSettings.allow).getD []

/-- Two policies of a rule agree in each field in which two tables of the rule do. -/
structure AgreesWhere (table otherTable : Option RuleSettings) (policy other : RulePolicy) :
    Prop where
  enabled : table.bind RuleSettings.enabled = otherTable.bind RuleSettings.enabled →
    policy.enabled = other.enabled
  severity : table.bind RuleSettings.severity = otherTable.bind RuleSettings.severity →
    policy.severity = other.severity
  allow : (table.map RuleSettings.allow).getD [] = (otherTable.map RuleSettings.allow).getD [] →
    policy.allow = other.allow

/-- Each field of a policy depends on the same field of the table only. -/
theorem Merges.agreesWhere {profile : Profile} {id : String}
    {table otherTable : Option RuleSettings} {policy other : RulePolicy}
    (merges : policy.Merges profile id table) (otherMerges : other.Merges profile id otherTable) :
    policy.AgreesWhere table otherTable other := by
  refine ⟨fun same => ?_, fun same => ?_, fun same => ?_⟩
  · rw [merges.enabled, otherMerges.enabled, same]
  · cases given : table.bind RuleSettings.severity with
    | none => rw [merges.defaultSeverity given, otherMerges.defaultSeverity (same ▸ given)]
    | some name =>
      obtain ⟨severity, chosen, named⟩ := merges.givenSeverity name given
      obtain ⟨otherSeverity, otherChosen, otherNamed⟩ :=
        otherMerges.givenSeverity name (same ▸ given)
      rw [← Severity.ofSetting?_eq_some_iff] at named otherNamed
      rw [chosen, otherChosen, ← named, ← otherNamed]
  · rw [merges.allow, otherMerges.allow, same]

end RulePolicy

/-- Where each of the settings that take effect comes from: the command line, the file or the
defaults. -/
structure EffectiveSettings.Merges (file : SettingsFile) (overrides : Overrides)
    (settings : EffectiveSettings) : Prop where
  profile : settings.profile.name = (overrides.profile.or file.profile).getD "strict"
  parallelism : settings.parallelism = overrides.parallelism.or file.parallelism
  ruleBudget : settings.ruleBudget = overrides.ruleBudget.or file.ruleBudget
  givenFailOn : ∀ name, file.failOn = some name → (name, settings.failOn) ∈ FailOn.settingNames
  defaultFailOn : file.failOn = none → settings.failOn = .error
  /-- Each rule of the catalog and each rule with a table has one policy. -/
  rules : Members.Sorted settings.rules ∧ ∀ id,
    id ∈ settings.rules.map Prod.fst ↔
      id ∈ Catalog.builtin.map (·.info.id) ∨ id ∈ file.rules.map Prod.fst
  policy : ∀ id policy, settings.policy? id = some policy →
    policy.Merges settings.profile id (file.rules.lookup id)

namespace Settings

/-! ## The settings of the run as a whole -/

/-- The profile that is chosen has the name that is given. -/
theorem name_of_chooseProfile {given : Option String} {profile : Profile}
    (chosen : chooseProfile given = .ok profile) : profile.name = given.getD "strict" := by
  unfold chooseProfile at chosen
  split at chosen
  case h_1 => cases chosen; rfl
  case h_2 name =>
    split at chosen
    case h_1 named =>
      cases chosen
      exact eq_of_beq (List.find?_some (p := (Choice.name · == name)) named)
    case h_2 => cases chosen

/-- A number that is chosen is the given one, and not zero. -/
theorem choosePositive_eq_ok_iff {refusal : SettingsError} {given number : Option Nat} :
    choosePositive refusal given = .ok number ↔ number = given ∧ given ≠ some 0 := by
  unfold choosePositive
  split <;> simp_all [eq_comm]

theorem mem_settingNames_of_chooseFailOn {name : String} {failOn : FailOn}
    (chosen : chooseFailOn (some name) = .ok failOn) : (name, failOn) ∈ FailOn.settingNames := by
  unfold chooseFailOn at chosen
  dsimp only at chosen
  split at chosen
  case h_1 named =>
    cases chosen
    exact FailOn.ofSetting?_eq_some_iff.1 named
  case h_2 => cases chosen

theorem mem_settingNames_of_chooseSeverity {id name : String} {severity : Option Severity}
    (chosen : chooseSeverity id (some name) = .ok severity) :
    ∃ known, severity = some known ∧ (name, known) ∈ Severity.settingNames := by
  unfold chooseSeverity at chosen
  dsimp only at chosen
  split at chosen
  case h_1 known named =>
    cases chosen
    exact ⟨known, rfl, Severity.ofSetting?_eq_some_iff.1 named⟩
  case h_2 => cases chosen

/-! ## The policies of the rules -/

/-- A profile has a policy for each rule of the catalog and for no other rule. -/
theorem lookup_presetPolicies_eq (profile : Profile) (id : String) :
    (presetPolicies profile).lookup id =
      if id ∈ Catalog.builtin.map (·.info.id) then some { severity := profile.severity? }
      else none := by
  split
  case isTrue builtin =>
    obtain ⟨rule, member, rfl⟩ := List.mem_map.1 builtin
    exact lookup_presetPolicies profile rule member
  case isFalse foreign =>
    cases found : (presetPolicies profile).lookup id with
    | none => rfl
    | some policy =>
      have preset := Members.mem_of_mem_ofPairs (Members.mem_of_lookup_eq_some found)
      obtain ⟨rule, member, same⟩ := List.mem_map.1 preset
      cases same
      exact absurd (List.mem_map_of_mem member) foreign

/-- A table changes the policy of its rule and no other policy. -/
theorem lookup_mergeRule {policies merged : List (String × RulePolicy)}
    {entry : String × RuleSettings} (changed : mergeRule policies entry = .ok merged)
    (id : String) :
    ∃ policy, mergePolicy ((policies.lookup entry.1).getD {}) entry.1 entry.2 = .ok policy ∧
      merged.lookup id = if id = entry.1 then some policy else policies.lookup id := by
  obtain ⟨policy, changedPolicy, rfl⟩ := mergeRule_eq_ok_iff.1 changed
  exact ⟨policy, changedPolicy, Members.lookup_insert _ _ _ _⟩

/-- With tables in key order, a rule without a table keeps its policy, and one with a table has its
policy changed by this table once, however many tables stand before and after it. -/
theorem lookup_foldlM_mergeRule {rules : List (String × RuleSettings)}
    (sorted : Members.Sorted rules) {policies merged : List (String × RulePolicy)}
    (folded : rules.foldlM mergeRule policies = .ok merged) (id : String) :
    rules.lookup id = none ∧ merged.lookup id = policies.lookup id ∨
      ∃ table policy, rules.lookup id = some table ∧
        mergePolicy ((policies.lookup id).getD {}) id table = .ok policy ∧
        merged.lookup id = some policy := by
  induction rules generalizing policies with
  | nil =>
    cases folded
    exact .inl ⟨rfl, rfl⟩
  | cons entry rest inductionHypothesis =>
    obtain ⟨below, sortedRest⟩ := List.pairwise_cons.1 sorted
    obtain ⟨key, table⟩ := entry
    rw [List.foldlM_cons] at folded
    obtain ⟨next, changed, continued⟩ := bind_eq_ok.1 folded
    obtain ⟨policy, changedPolicy, afterwards⟩ := lookup_mergeRule changed id
    have rest := inductionHypothesis sortedRest continued
    by_cases same : id = key
    · -- no later table is one of this rule
      subst same
      rw [if_pos rfl] at afterwards
      rw [Members.lookup_eq_none_of_lt below, afterwards] at rest
      obtain ⟨_, kept⟩ | ⟨_, _, found, _⟩ := rest
      · exact .inr ⟨table, policy, List.lookup_cons_self, changedPolicy, kept⟩
      · exact nomatch found
    · rw [if_neg same] at afterwards
      rw [Members.lookup_cons_of_ne same, ← afterwards]
      exact rest

/-- The policies after all tables. -/
theorem merges_of_foldlM {rules : List (String × RuleSettings)} (sorted : Members.Sorted rules)
    {profile : Profile} {merged : List (String × RulePolicy)}
    (folded : rules.foldlM mergeRule (presetPolicies profile) = .ok merged) {id : String}
    {policy : RulePolicy} (found : merged.lookup id = some policy) :
    policy.Merges profile id (rules.lookup id) := by
  have preset := lookup_presetPolicies_eq profile id
  have defaults : ((presetPolicies profile).lookup id).getD {} =
      { severity := if profile = .warn ∧ id ∈ Catalog.builtin.map (·.info.id) then some .warning
          else none } := by
    rw [preset]
    cases profile <;> split <;> simp_all [Profile.severity?]
  obtain ⟨noTable, kept⟩ | ⟨table, changed, known, merges, same⟩ :=
    lookup_foldlM_mergeRule sorted folded id
  · rw [← kept, found, Option.getD_some] at defaults
    rw [noTable, defaults]
    exact ⟨rfl, nofun, fun _ => rfl, rfl⟩
  · rw [found, Option.some.injEq] at same
    subst same
    rw [defaults] at merges
    obtain ⟨severity, chosen, _, rfl⟩ := mergePolicy_eq_ok_iff.1 merges
    rw [known]
    refine ⟨rfl, fun name given => ?_, fun unsaid => ?_, ?_⟩
    · have said : table.severity = some name := given
      rw [said] at chosen
      obtain ⟨severity, rfl, named⟩ := mem_settingNames_of_chooseSeverity chosen
      exact ⟨severity, rfl, named⟩
    · have unsaid : table.severity = none := unsaid
      rw [unsaid] at chosen
      cases chosen
      rfl
    · show (if table.allow.isEmpty then [] else table.allow) = table.allow
      split
      case isTrue empty => exact (List.isEmpty_iff.1 empty).symm
      case isFalse => rfl

/-- Each rule of the catalog and each rule with a table has a policy, and no other rule. -/
theorem mem_keys_foldlM_iff {rules : List (String × RuleSettings)} (sorted : Members.Sorted rules)
    {profile : Profile} {merged : List (String × RulePolicy)}
    (folded : rules.foldlM mergeRule (presetPolicies profile) = .ok merged) (id : String) :
    id ∈ merged.map Prod.fst ↔
      id ∈ Catalog.builtin.map (·.info.id) ∨ id ∈ rules.map Prod.fst := by
  simp only [← Members.isSome_lookup_iff]
  obtain ⟨noTable, kept⟩ | ⟨table, policy, known, _, found⟩ :=
    lookup_foldlM_mergeRule sorted folded id
  · rw [noTable, kept, lookup_presetPolicies_eq]
    split <;> simp_all
  · simp [known, found]

/-- Settings that take effect are merged field by field. -/
theorem merges_of_resolve {file : SettingsFile} (sorted : Members.Sorted file.rules)
    {overrides : Overrides} {settings : EffectiveSettings}
    (resolved : resolve file overrides = .ok settings) : settings.Merges file overrides := by
  obtain ⟨profile, parallelism, ruleBudget, rules, failOn⟩ := resolve_eq_ok_iff.1 resolved
  refine ⟨name_of_chooseProfile profile, (choosePositive_eq_ok_iff.1 parallelism).1,
    (choosePositive_eq_ok_iff.1 ruleBudget).1, fun name given => ?_, fun unsaid => ?_,
    ⟨sorted_rules_of_resolve resolved, mem_keys_foldlM_iff sorted rules⟩,
    fun id policy found => merges_of_foldlM sorted rules found⟩
  · rw [given] at failOn
    exact mem_settingNames_of_chooseFailOn failOn
  · rw [unsaid] at failOn
    exact (Except.ok.inj failOn).symm

/-- Of two files that differ in the table of one rule, what takes effect differs at most in the
policy of this rule. -/
theorem differOnlyAt_of_resolve {id : String} {file other : SettingsFile}
    (differ : file.DifferOnlyAt id other) (sorted : Members.Sorted file.rules)
    (otherSorted : Members.Sorted other.rules) {overrides : Overrides}
    {settings otherSettings : EffectiveSettings} (resolved : resolve file overrides = .ok settings)
    (otherResolved : resolve other overrides = .ok otherSettings) :
    settings.DifferOnlyAt id otherSettings := by
  obtain ⟨general, table⟩ := differ
  -- beside the tables both files say the same
  have rest : resolve { file with rules := other.rules } overrides = .ok otherSettings :=
    general ▸ otherResolved
  obtain ⟨profile, parallelism, ruleBudget, rules, failOn⟩ := resolve_eq_ok_iff.1 resolved
  obtain ⟨otherProfile, otherParallelism, otherRuleBudget, otherRules, otherFailOn⟩ :=
    resolve_eq_ok_iff.1 rest
  have sameProfile := Except.ok.inj (profile.symm.trans otherProfile)
  have sameParallelism := Except.ok.inj (parallelism.symm.trans otherParallelism)
  have sameRuleBudget := Except.ok.inj (ruleBudget.symm.trans otherRuleBudget)
  have sameFailOn := Except.ok.inj (failOn.symm.trans otherFailOn)
  refine ⟨?_, fun otherId different => ?_⟩
  · cases settings
    cases otherSettings
    simp_all
  · rw [← sameProfile] at otherRules
    obtain ⟨noTable, kept⟩ | ⟨one, policy, known, merges, found⟩ :=
      lookup_foldlM_mergeRule sorted rules otherId
    all_goals
      obtain ⟨otherNoTable, otherKept⟩ | ⟨_, otherPolicy, otherKnown, otherMerges, otherFound⟩ :=
        lookup_foldlM_mergeRule otherSorted otherRules otherId
    all_goals simp_all [EffectiveSettings.policy?]

/-- The patterns of a policy can be read one by one. -/
theorem exists_glob_of_resolve {file : SettingsFile} {overrides : Overrides}
    {settings : EffectiveSettings} (resolved : resolve file overrides = .ok settings) {id : String}
    {policy : RulePolicy} (found : settings.policy? id = some policy) :
    ∀ pattern ∈ policy.allow, ∃ glob, Glob.parse pattern = .ok glob :=
  exists_mapM_eq_ok_iff.1 (areWellFormed_of_resolve resolved _ (Members.mem_of_lookup_eq_some found))

/-- The profile, the workers, the budget and the least failing severity that take effect are those
of the command line, else those of the file, else the defaults, and there is a policy for each rule
of the catalog and each rule with a table, with each field from the table, else from the profile.
What a table gives changes no other field and no other rule. So settings that take effect have a
known profile, at least one worker and one millisecond if such numbers are given, and no malformed
pattern. -/
theorem resolve_merges_fields {file : SettingsFile} (sorted : Members.Sorted file.rules)
    {overrides : Overrides} {settings : EffectiveSettings}
    (resolved : resolve file overrides = .ok settings) :
    settings.Merges file overrides ∧
      (∀ id other, file.DifferOnlyAt id other → Members.Sorted other.rules →
        ∀ otherSettings, resolve other overrides = .ok otherSettings →
          settings.DifferOnlyAt id otherSettings ∧
            ∀ policy, settings.policy? id = some policy →
              ∀ otherPolicy, otherSettings.policy? id = some otherPolicy →
                policy.AgreesWhere (file.rules.lookup id) (other.rules.lookup id) otherPolicy) ∧
      (overrides.profile.or file.profile).getD "strict" ∈ ["strict", "warn"] ∧
      (∀ workers, settings.parallelism = some workers → 1 ≤ workers) ∧
      (∀ budget, settings.ruleBudget = some budget → 1 ≤ budget) ∧
      ∀ id policy, settings.policy? id = some policy →
        ∀ pattern ∈ policy.allow, ∃ glob, Glob.parse pattern = .ok glob := by
  have merges := merges_of_resolve sorted resolved
  obtain ⟨_, parallelism, ruleBudget, _⟩ := resolve_eq_ok_iff.1 resolved
  refine ⟨merges, ?_, ?_, ?_, ?_, fun id policy => exists_glob_of_resolve resolved⟩
  · intro id other differ otherSorted otherSettings otherResolved
    have differs := differOnlyAt_of_resolve differ sorted otherSorted resolved otherResolved
    refine ⟨differs, fun policy found otherPolicy otherFound => ?_⟩
    have sameProfile := congrArg EffectiveSettings.profile differs.general
    have otherMerges := (merges_of_resolve otherSorted otherResolved).policy id _ otherFound
    exact (merges.policy id policy found).agreesWhere (sameProfile ▸ otherMerges)
  · rw [← merges.profile]
    cases settings.profile <;> decide
  · rintro workers given
    obtain ⟨same, positive⟩ := choosePositive_eq_ok_iff.1 parallelism
    rw [← same, given] at positive
    exact Nat.one_le_iff_ne_zero.2 fun zero => positive (congrArg some zero)
  · rintro budget given
    obtain ⟨same, positive⟩ := choosePositive_eq_ok_iff.1 ruleBudget
    rw [← same, given] at positive
    exact Nat.one_le_iff_ne_zero.2 fun zero => positive (congrArg some zero)

/-- The command line, a file and the profile `warn` each have a part in the policies: a severity that
a table gives, one that it does not give, a rule that the catalog does not have. Without its patterns
the same table leaves everything else as it was. -/
theorem resolve_merges_fields_of_three_layers :
    let id := "GR_AZURE_002"
    let table : RuleSettings := { severity := some "info", allow := ["net.*"] }
    let withTable (table : RuleSettings) : SettingsFile :=
      { profile := some "strict", failOn := some "warn", parallelism := some 2
        ruleBudget := some 250, rules := [(id, table), ("X", { enabled := some false })] }
    let file := withTable table
    let other := withTable { table with allow := [] }
    let overrides : Overrides := { profile := some "warn", parallelism := some 8 }
    let rules (allow : List String) : List (String × RulePolicy) :=
      [("GR_AZURE_001", { severity := some .warning }), (id, { severity := some .info, allow }),
        ("GR_AZURE_003", { severity := some .warning }), ("X", { enabled := false })]
    let settings (allow : List String) : EffectiveSettings :=
      { profile := .warn, failOn := .warning, parallelism := some 8, ruleBudget := some 250
        rules := rules allow }
    Members.Sorted file.rules ∧ file.DifferOnlyAt id other ∧
      resolve file overrides = .ok (settings ["net.*"]) ∧
      resolve other overrides = .ok (settings []) ∧
      (settings ["net.*"]).Merges file overrides ∧
      (settings ["net.*"]).DifferOnlyAt id (settings []) := by
  intro id table withTable file other overrides rules settings
  have sorted (table : RuleSettings) : Members.Sorted (withTable table).rules :=
    List.pairwise_pair.2 (show id < "X" by decide)
  have differ : file.DifferOnlyAt id other := by
    refine ⟨rfl, fun otherId different => ?_⟩
    rw [Members.lookup_cons_of_ne different, Members.lookup_cons_of_ne different]
  have resolved : resolve file overrides = .ok (settings ["net.*"]) :=
    toOption_eq_some_iff.1 (by decide +kernel)
  have otherResolved : resolve other overrides = .ok (settings []) :=
    toOption_eq_some_iff.1 (by decide +kernel)
  obtain ⟨merges, frame, _⟩ := resolve_merges_fields (sorted table) resolved
  exact ⟨sorted table, differ, resolved, otherResolved, merges,
    (frame id other differ (sorted _) (settings []) otherResolved).1⟩

end Settings

end ConfigAudit
