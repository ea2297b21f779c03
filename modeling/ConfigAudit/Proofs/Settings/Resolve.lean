import ConfigAudit.Proofs.Except
import ConfigAudit.Proofs.Members
import ConfigAudit.Settings.Load

/-!
# What resolved settings promise

Settings that can take effect have no malformed pattern, whatever rule it belongs to: those of a
profile have none at all, and each one that a file adds is checked. `RulePolicy.IsWellFormed` is
what merging keeps, from the first rule of a file to the last.
-/

namespace ConfigAudit

namespace RulePolicy

/-- Each pattern of a policy can be read. -/
def IsWellFormed (policy : RulePolicy) : Prop :=
  ∃ globs, policy.allow.mapM Glob.parse = .ok globs

/-- A policy without patterns has no malformed one. -/
theorem isWellFormed_of_allow_eq_nil {policy : RulePolicy} (unlisted : policy.allow = []) :
    policy.IsWellFormed := by
  rw [IsWellFormed, unlisted]
  exact ⟨[], rfl⟩

end RulePolicy

namespace Settings

/-- The policies of all rules can be read. -/
def AreWellFormed (policies : List (String × RulePolicy)) : Prop :=
  ∀ entry ∈ policies, entry.2.IsWellFormed

/-- Settings can be loaded iff the file can be read and what it says can take effect. -/
theorem load_eq_ok_iff {text : String} {overrides : Overrides} {settings : EffectiveSettings} :
    load text overrides = .ok settings ↔
      ∃ file, SettingsFile.read text = .ok file ∧ resolve file overrides = .ok settings := by
  simp only [load, bind_eq_ok, mapError_eq_ok]

/-- Settings take effect iff each of them does. The policies are those of the profile, changed by
one rule of the file after the other. -/
theorem resolve_eq_ok_iff {file : SettingsFile} {overrides : Overrides}
    {settings : EffectiveSettings} :
    resolve file overrides = .ok settings ↔
      chooseProfile (overrides.profile.or file.profile) = .ok settings.profile ∧
        choosePositive .noWorkers (overrides.parallelism.or file.parallelism) =
          .ok settings.parallelism ∧
        choosePositive .noBudget (overrides.ruleBudget.or file.ruleBudget) =
          .ok settings.ruleBudget ∧
        file.rules.foldlM mergeRule (presetPolicies settings.profile) = .ok settings.rules ∧
        chooseFailOn file.failOn = .ok settings.failOn := by
  simp only [resolve, bind_eq_ok]
  constructor
  · rintro ⟨profile, chosen, workers, parallelism, budget, ruleBudget, rules, merged, failOn, least,
      ⟨⟩⟩
    exact ⟨chosen, parallelism, ruleBudget, merged, least⟩
  · rintro ⟨chosen, parallelism, ruleBudget, merged, least⟩
    exact ⟨_, chosen, _, parallelism, _, ruleBudget, _, merged, _, least, rfl⟩

theorem checkPatterns_eq_ok_iff {id : String} {patterns : List String} :
    checkPatterns id patterns = .ok () ↔ ∃ globs, patterns.mapM Glob.parse = .ok globs := by
  rw [checkPatterns, forM_eq_ok, exists_mapM_eq_ok_iff]
  refine forall₂_congr fun pattern _ => ?_
  cases Glob.parse pattern <;> simp

/-- A policy that a file changes keeps what the file does not mention. -/
theorem mergePolicy_eq_ok_iff {policy merged : RulePolicy} {id : String} {rule : RuleSettings} :
    mergePolicy policy id rule = .ok merged ↔
      ∃ severity, chooseSeverity id rule.severity = .ok severity ∧
        checkPatterns id rule.allow = .ok () ∧
        { enabled := rule.enabled.getD policy.enabled
          severity := severity.or policy.severity
          allow := if rule.allow.isEmpty then policy.allow else rule.allow } = merged := by
  simp only [mergePolicy, bind_eq_ok]
  constructor
  · rintro ⟨severity, chosen, ⟨⟩, checked, ⟨⟩⟩
    exact ⟨severity, chosen, checked, rfl⟩
  · rintro ⟨severity, chosen, checked, rfl⟩
    exact ⟨severity, chosen, (), checked, rfl⟩

/-- A rule of a file changes the policy of this rule only. -/
theorem mergeRule_eq_ok_iff {policies merged : List (String × RulePolicy)}
    {entry : String × RuleSettings} :
    mergeRule policies entry = .ok merged ↔
      ∃ policy, mergePolicy ((policies.lookup entry.1).getD {}) entry.1 entry.2 = .ok policy ∧
        Members.insert entry.1 policy policies = merged := by
  simp only [mergeRule, bind_eq_ok]
  constructor
  · rintro ⟨policy, changed, ⟨⟩⟩
    exact ⟨policy, changed, rfl⟩
  · rintro ⟨policy, changed, rfl⟩
    exact ⟨policy, changed, rfl⟩

/-- A policy that a file changes takes the patterns of the file, which are checked, or keeps its
own. -/
theorem isWellFormed_of_mergePolicy {policy merged : RulePolicy} {id : String}
    {rule : RuleSettings} (wellFormed : policy.IsWellFormed)
    (changed : mergePolicy policy id rule = .ok merged) : merged.IsWellFormed := by
  obtain ⟨_, _, checked, rfl⟩ := mergePolicy_eq_ok_iff.1 changed
  unfold RulePolicy.IsWellFormed
  split
  · exact wellFormed
  · exact checkPatterns_eq_ok_iff.1 checked

/-- The policies stay readable with each rule of a file. -/
theorem AreWellFormed.mergeRule {policies merged : List (String × RulePolicy)}
    {entry : String × RuleSettings} (wellFormed : AreWellFormed policies)
    (changed : Settings.mergeRule policies entry = .ok merged) : AreWellFormed merged := by
  obtain ⟨policy, changedPolicy, rfl⟩ := mergeRule_eq_ok_iff.1 changed
  have before : ((policies.lookup entry.1).getD {}).IsWellFormed := by
    cases found : policies.lookup entry.1 with
    | none => exact RulePolicy.isWellFormed_of_allow_eq_nil rfl
    | some known => exact wellFormed _ (Members.mem_of_lookup_eq_some found)
  intro other member
  rcases Members.mem_insert member with rfl | member
  · exact isWellFormed_of_mergePolicy before changedPolicy
  · exact wellFormed other member

/-- A profile says nothing of a rule but its severity. -/
theorem policy_of_mem_presetPolicies {profile : Profile} {entry : String × RulePolicy}
    (member : entry ∈ presetPolicies profile) : entry.2 = { severity := profile.severity? } := by
  obtain ⟨rule, _, rfl⟩ := List.mem_map.1 (Members.mem_of_mem_ofPairs member)
  rfl

/-- A profile has a policy for each rule of the catalog. -/
theorem lookup_presetPolicies (profile : Profile) :
    ∀ rule ∈ Catalog.builtin, (presetPolicies profile).lookup rule.info.id =
      some { severity := profile.severity? } := by
  cases profile <;> decide +kernel

/-- A profile has no malformed pattern, since it has none. -/
theorem areWellFormed_presetPolicies (profile : Profile) :
    AreWellFormed (presetPolicies profile) := by
  intro entry member
  apply RulePolicy.isWellFormed_of_allow_eq_nil
  rw [policy_of_mem_presetPolicies member]

/-- Each rule has one policy, in the order of the identifiers. -/
theorem sorted_rules_of_resolve {file : SettingsFile} {overrides : Overrides}
    {settings : EffectiveSettings} (resolved : resolve file overrides = .ok settings) :
    Members.Sorted settings.rules := by
  have kept {policies merged : List (String × RulePolicy)} {entry : String × RuleSettings}
      (sorted : Members.Sorted policies) (changed : mergeRule policies entry = .ok merged) :
      Members.Sorted merged := by
    obtain ⟨policy, _, rfl⟩ := mergeRule_eq_ok_iff.1 changed
    exact sorted.insert entry.1 policy
  obtain ⟨_, _, _, merged, _⟩ := resolve_eq_ok_iff.1 resolved
  exact holds_of_foldlM_eq_ok kept (Members.sorted_ofPairs _) merged

/-- The policies of settings that can take effect can be read. -/
theorem areWellFormed_of_resolve {file : SettingsFile} {overrides : Overrides}
    {settings : EffectiveSettings} (resolved : resolve file overrides = .ok settings) :
    AreWellFormed settings.rules := by
  obtain ⟨_, _, _, merged, _⟩ := resolve_eq_ok_iff.1 resolved
  exact holds_of_foldlM_eq_ok AreWellFormed.mergeRule (areWellFormed_presetPolicies _) merged

end Settings

end ConfigAudit
