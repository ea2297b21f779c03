import ConfigAudit.Proofs.Settings.File
import ConfigAudit.Proofs.Settings.Resolve

/-!
# The first setting that cannot take effect

`Settings.Refuses` says of each place in a settings file and on the command line why what takes
effect there is refused, with no regard to the other places. The checks of `resolve`, laid out in
one list, follow the order of the places, so `resolve` fails iff some place is refused, and tells
the first one that is: `Settings.resolve_tells_first_refusal`.
-/

namespace ConfigAudit

namespace Choice

/-- A name belongs to no alternative iff it is not among their names. -/
theorem ofName?_eq_none_iff {Alternative : Type} [Choice Alternative] {name : String} :
    (ofName? name : Option Alternative) = none ↔
      name ∉ (all : List Alternative).map Choice.name := by
  simp [ofName?]

end Choice

namespace Settings

/-- Where something is said that may be refused. -/
inductive Place where
  | profile
  | parallelism
  | ruleBudget
  /-- The severity in the table of a rule. -/
  | severity (ruleId : String)
  /-- A pattern in the allowlist of a rule. -/
  | pattern (ruleId : String) (position : Nat)
  | failOn
deriving DecidableEq, Repr

namespace Place

/-- The place of the tables of rules among the other settings. -/
def stage : Place → Nat
  | profile => 0
  | parallelism => 1
  | ruleBudget => 2
  | severity _ | pattern _ _ => 3
  | failOn => 4

/-- The rule whose table it is. -/
def ruleId : Place → String
  | severity id | pattern id _ => id
  | profile | parallelism | ruleBudget | failOn => ""

/-- The position in a table: the severity stands before the patterns. -/
def position : Place → Nat
  | pattern _ position => position + 1
  | profile | parallelism | ruleBudget | severity _ | failOn => 0

/-- The order of the places. The tables of rules stand in the order of their identifiers. -/
def Precedes (left right : Place) : Prop :=
  left.stage < right.stage ∨ left.stage = right.stage ∧
    (left.ruleId < right.ruleId ∨ left.ruleId = right.ruleId ∧ left.position < right.position)

theorem Precedes.asymm {left right : Place} (precedes : left.Precedes right) :
    ¬ right.Precedes left := by
  rintro (laterStage | ⟨sameStage, laterRule | ⟨sameRule, laterPosition⟩⟩)
  all_goals rcases precedes with stage | ⟨stage, rule | ⟨rule, position⟩⟩
  all_goals try omega
  · exact String.lt_asymm rule laterRule
  · exact String.lt_irrefl _ (rule ▸ laterRule)
  · exact String.lt_irrefl _ (sameRule ▸ rule)

end Place

/-- Why a place is refused: what takes effect there is not what the place can hold. -/
inductive Refuses (file : SettingsFile) (overrides : Overrides) : Place → SettingsError → Prop where
  | profile {name : String} (chosen : overrides.profile.or file.profile = some name)
      (unknown : name ∉ ["strict", "warn"]) :
      Refuses file overrides .profile (.unknownProfile name)
  | parallelism (chosen : overrides.parallelism.or file.parallelism = some 0) :
      Refuses file overrides .parallelism .noWorkers
  | ruleBudget (chosen : overrides.ruleBudget.or file.ruleBudget = some 0) :
      Refuses file overrides .ruleBudget .noBudget
  | severity {id : String} {rule : RuleSettings} {name : String} (listed : (id, rule) ∈ file.rules)
      (given : rule.severity = some name) (unknown : name ∉ ["info", "warning", "warn", "error"]) :
      Refuses file overrides (.severity id) (.unknownSeverity id name)
  | pattern {id : String} {rule : RuleSettings} {position : Nat} {pattern : String}
      {error : GlobError} (listed : (id, rule) ∈ file.rules)
      (given : rule.allow[position]? = some pattern)
      (malformed : Glob.parse pattern = .error error) :
      Refuses file overrides (.pattern id position) (.malformedPattern id error)
  | failOn {name : String} (given : file.failOn = some name)
      (unknown : name ∉ ["error", "warning", "warn"]) :
      Refuses file overrides .failOn (.unknownFailOn name)

/-! ## The single checks -/

/-- A setting that takes some names refuses any other name and nothing else. -/
theorem eq_error_iff_of_names {Result : Type} (choose : Option String → Except SettingsError Result)
    {names : List String} {refusal : String → SettingsError}
    (unsaid : ∃ result, choose none = .ok result)
    (known : ∀ name ∈ names, ∃ result, choose (some name) = .ok result)
    (unknown : ∀ name ∉ names, choose (some name) = .error (refusal name))
    {given : Option String} {error : SettingsError} :
    choose given = .error error ↔
      ∃ name, given = some name ∧ name ∉ names ∧ refusal name = error := by
  cases given with
  | none =>
    obtain ⟨result, chosen⟩ := unsaid
    simp [chosen]
  | some name =>
    by_cases member : name ∈ names
    · obtain ⟨result, chosen⟩ := known name member
      simp [chosen, member]
    · simp [unknown name member, member]

theorem chooseProfile_eq_error_iff {chosen : Option String} {error : SettingsError} :
    chooseProfile chosen = .error error ↔
      ∃ name, chosen = some name ∧ name ∉ ["strict", "warn"] ∧ .unknownProfile name = error := by
  refine eq_error_iff_of_names chooseProfile ⟨_, rfl⟩ ?_ fun name unknown => ?_
  · simp [chooseProfile, Choice.ofName?, Choice.all, Choice.name, Profile.name]
  · have unnamed : (Choice.ofName? name : Option Profile) = none :=
      Choice.ofName?_eq_none_iff.2 unknown
    rw [chooseProfile, unnamed]

theorem choosePositive_eq_error_iff {refusal error : SettingsError} {number : Option Nat} :
    choosePositive refusal number = .error error ↔ number = some 0 ∧ refusal = error := by
  unfold choosePositive
  split <;> simp_all

theorem chooseSeverity_eq_error_iff {id : String} {given : Option String} {error : SettingsError} :
    chooseSeverity id given = .error error ↔
      ∃ name, given = some name ∧ name ∉ ["info", "warning", "warn", "error"] ∧
        .unknownSeverity id name = error := by
  refine eq_error_iff_of_names (chooseSeverity id) ⟨_, rfl⟩ ?_ fun name unknown => ?_
  · simp [chooseSeverity, Severity.ofSetting?, Choice.ofName?, Choice.all, Choice.name,
      Severity.name]
  · obtain ⟨notInfo, notWarning, notWarn, notError⟩ :
        name ≠ "info" ∧ name ≠ "warning" ∧ name ≠ "warn" ∧ name ≠ "error" := by
      simpa using unknown
    have unnamed : (Choice.ofName? name : Option Severity) = none :=
      Choice.ofName?_eq_none_iff.2 (by simp [Choice.all, Choice.name, Severity.name, *])
    simp [chooseSeverity, Severity.ofSetting?, notWarn, unnamed]

theorem chooseFailOn_eq_error_iff {given : Option String} {error : SettingsError} :
    chooseFailOn given = .error error ↔
      ∃ name, given = some name ∧ name ∉ ["error", "warning", "warn"] ∧
        .unknownFailOn name = error := by
  refine eq_error_iff_of_names chooseFailOn ⟨_, rfl⟩ ?_ fun name unknown => ?_
  · simp [chooseFailOn, FailOn.ofSetting?, Choice.ofName?, Choice.all, Choice.name, FailOn.name]
  · obtain ⟨notError, notWarning, notWarn⟩ : name ≠ "error" ∧ name ≠ "warning" ∧ name ≠ "warn" := by
      simpa using unknown
    have unnamed : (Choice.ofName? name : Option FailOn) = none :=
      Choice.ofName?_eq_none_iff.2 (by simp [Choice.all, Choice.name, FailOn.name, *])
    simp [chooseFailOn, FailOn.ofSetting?, notWarn, unnamed]

/-- The check of a pattern. -/
def checkPattern (id pattern : String) : Except SettingsError Unit :=
  match Glob.parse pattern with
  | .ok _ => .ok ()
  | .error error => .error (.malformedPattern id error)

theorem checkPattern_eq_error_iff {id pattern : String} {error : SettingsError} :
    checkPattern id pattern = .error error ↔
      ∃ cause, Glob.parse pattern = .error cause ∧ .malformedPattern id cause = error := by
  unfold checkPattern
  cases Glob.parse pattern <;> simp

/-! ## The checks in one list -/

/-- The checks of the table of a rule, each with its place. -/
def checksOfTable (entry : String × RuleSettings) : List (Place × Except SettingsError Unit) :=
  (.severity entry.1, discard (chooseSeverity entry.1 entry.2.severity)) ::
    entry.2.allow.zipIdx.map fun (pattern, position) =>
      (.pattern entry.1 position, checkPattern entry.1 pattern)

/-- The checks of all settings, each with its place. -/
def checks (file : SettingsFile) (overrides : Overrides) :
    List (Place × Except SettingsError Unit) :=
  (.profile, discard (chooseProfile (overrides.profile.or file.profile))) ::
  (.parallelism,
    discard (choosePositive .noWorkers (overrides.parallelism.or file.parallelism))) ::
  (.ruleBudget, discard (choosePositive .noBudget (overrides.ruleBudget.or file.ruleBudget))) ::
  (file.rules.flatMap checksOfTable ++ [(.failOn, discard (chooseFailOn file.failOn))])

theorem checkPatterns_eq_forM (id : String) (patterns : List String) :
    checkPatterns id patterns =
      (patterns.zipIdx.map fun (pattern, position) =>
        (Place.pattern id position, checkPattern id pattern)).forM Prod.snd := by
  have onPatterns : (patterns.zipIdx.map Prod.fst).forM (checkPattern id) =
      (patterns.zipIdx.map fun (pattern, position) =>
        (Place.pattern id position, checkPattern id pattern)).forM Prod.snd := by
    simp only [List.forM_eq_forM, List.forM_map]
  rw [← onPatterns, List.zipIdx_map_fst]
  rfl

/-- A rule of a file is refused by the checks of its table, whatever the policies before. -/
theorem discard_mergeRule (policies : List (String × RulePolicy)) (entry : String × RuleSettings) :
    discard (mergeRule policies entry) = (checksOfTable entry).forM Prod.snd := by
  rw [mergeRule, discard_bind_pure, mergePolicy, discard_bind fun severity => discard_bind_pure,
    discard_eq_self, checkPatterns_eq_forM]
  rfl

/-- Settings are refused by the checks. -/
theorem discard_resolve (file : SettingsFile) (overrides : Overrides) :
    discard (resolve file overrides) = (checks file overrides).forM Prod.snd := by
  have last (policies : List (String × RulePolicy))
      (settings : List (String × RulePolicy) → FailOn → EffectiveSettings) :
      discard (file.rules.foldlM mergeRule policies >>= fun rules =>
        chooseFailOn file.failOn >>= fun failOn => pure (settings rules failOn)) =
      (file.rules.flatMap checksOfTable ++
        [(Place.failOn, discard (chooseFailOn file.failOn))]).forM Prod.snd := by
    rw [discard_bind fun rules => discard_bind_pure, discard_foldlM discard_mergeRule,
      ← forM_flatMap]
    simp [List.forM_eq_forM]
  rw [resolve, discard_bind fun profile => discard_bind fun parallelism =>
    discard_bind fun ruleBudget => last (presetPolicies profile) _]
  rfl

/-- A check finds fault with a place iff the place is refused. -/
theorem mem_checks_iff {file : SettingsFile} {overrides : Overrides} {place : Place}
    {error : SettingsError} :
    (place, .error error) ∈ checks file overrides ↔ Refuses file overrides place error := by
  simp only [checks, checksOfTable, List.mem_cons, List.mem_append, List.mem_flatMap, List.mem_map,
    List.not_mem_nil, or_false, Prod.mk.injEq, @eq_comm _ (Except.error error),
    discard_eq_error_iff, List.mem_zipIdx_iff_getElem?]
  constructor
  · rintro (⟨rfl, refused⟩ | ⟨rfl, refused⟩ | ⟨rfl, refused⟩ |
      ⟨⟨id, rule⟩, listed, ⟨rfl, refused⟩ | ⟨⟨pattern, position⟩, given, rfl, refused⟩⟩ |
      ⟨rfl, refused⟩)
    · obtain ⟨name, chosen, unknown, rfl⟩ := chooseProfile_eq_error_iff.1 refused
      exact .profile chosen unknown
    · obtain ⟨chosen, rfl⟩ := choosePositive_eq_error_iff.1 refused
      exact .parallelism chosen
    · obtain ⟨chosen, rfl⟩ := choosePositive_eq_error_iff.1 refused
      exact .ruleBudget chosen
    · obtain ⟨name, severity, unknown, rfl⟩ := chooseSeverity_eq_error_iff.1 refused
      exact .severity listed severity unknown
    · obtain ⟨cause, malformed, rfl⟩ := checkPattern_eq_error_iff.1 refused
      exact .pattern listed given malformed
    · obtain ⟨name, given, unknown, rfl⟩ := chooseFailOn_eq_error_iff.1 refused
      exact .failOn given unknown
  · intro refuses
    cases refuses with
    | profile chosen unknown =>
      exact .inl ⟨rfl, chooseProfile_eq_error_iff.2 ⟨_, chosen, unknown, rfl⟩⟩
    | parallelism chosen =>
      exact .inr (.inl ⟨rfl, choosePositive_eq_error_iff.2 ⟨chosen, rfl⟩⟩)
    | ruleBudget chosen =>
      exact .inr (.inr (.inl ⟨rfl, choosePositive_eq_error_iff.2 ⟨chosen, rfl⟩⟩))
    | severity listed given unknown =>
      exact .inr (.inr (.inr (.inl ⟨_, listed, .inl
        ⟨rfl, chooseSeverity_eq_error_iff.2 ⟨_, given, unknown, rfl⟩⟩⟩)))
    | pattern listed given malformed =>
      exact .inr (.inr (.inr (.inl ⟨_, listed, .inr
        ⟨(_, _), given, rfl, checkPattern_eq_error_iff.2 ⟨_, malformed, rfl⟩⟩⟩)))
    | failOn given unknown =>
      exact .inr (.inr (.inr (.inr ⟨rfl, chooseFailOn_eq_error_iff.2 ⟨_, given, unknown, rfl⟩⟩)))

theorem place_of_mem_checksOfTable {entry : String × RuleSettings}
    {check : Place × Except SettingsError Unit} (member : check ∈ checksOfTable entry) :
    check.1.stage = 3 ∧ check.1.ruleId = entry.1 := by
  rcases List.mem_cons.1 member with rfl | member
  · exact ⟨rfl, rfl⟩
  · obtain ⟨_, _, rfl⟩ := List.mem_map.1 member
    exact ⟨rfl, rfl⟩

/-- The checks of a table follow the order of their places. -/
theorem pairwise_checksOfTable (entry : String × RuleSettings) :
    (checksOfTable entry).Pairwise fun earlier later => earlier.1.Precedes later.1 := by
  refine List.pairwise_cons.2 ⟨?_, List.pairwise_map.2 ?_⟩
  · intro later member
    obtain ⟨_, _, rfl⟩ := List.mem_map.1 member
    exact .inr ⟨rfl, .inr ⟨rfl, Nat.succ_pos _⟩⟩
  · have ascending : (entry.2.allow.zipIdx.map Prod.snd).Pairwise (· < ·) := by
      rw [List.zipIdx_map_snd]
      exact List.pairwise_lt_range'
    exact (List.pairwise_map.1 ascending).imp fun lower =>
      .inr ⟨rfl, .inr ⟨rfl, Nat.succ_lt_succ lower⟩⟩

theorem stage_of_mem_tables {rules : List (String × RuleSettings)}
    {check : Place × Except SettingsError Unit} (member : check ∈ rules.flatMap checksOfTable) :
    check.1.stage = 3 := by
  obtain ⟨entry, _, member⟩ := List.mem_flatMap.1 member
  exact (place_of_mem_checksOfTable member).1

/-- The checks of tables in the order of their identifiers follow the order of their places. -/
theorem pairwise_tables {rules : List (String × RuleSettings)} (sorted : Members.Sorted rules) :
    (rules.flatMap checksOfTable).Pairwise fun earlier later => earlier.1.Precedes later.1 := by
  refine List.pairwise_flatMap.2 ⟨fun entry _ => pairwise_checksOfTable entry, ?_⟩
  refine sorted.imp fun lower earlier ofEarlier later ofLater => ?_
  obtain ⟨stage, ruleId⟩ := place_of_mem_checksOfTable ofEarlier
  obtain ⟨laterStage, laterRuleId⟩ := place_of_mem_checksOfTable ofLater
  exact .inr ⟨stage.trans laterStage.symm, .inl (by rwa [ruleId, laterRuleId])⟩

/-- The checks follow the order of their places. -/
theorem pairwise_checks {file : SettingsFile} (sorted : Members.Sorted file.rules)
    (overrides : Overrides) :
    (checks file overrides).Pairwise fun earlier later => earlier.1.Precedes later.1 := by
  have ending : (file.rules.flatMap checksOfTable ++
      [(Place.failOn, discard (chooseFailOn file.failOn))]).Pairwise fun earlier later =>
        earlier.1.Precedes later.1 := by
    refine List.pairwise_append.2 ⟨pairwise_tables sorted, List.pairwise_singleton _ _, ?_⟩
    rintro check member _ (_ | ⟨_, ⟨⟩⟩)
    exact .inl (stage_of_mem_tables member ▸ Nat.lt_succ_self 3)
  have single (place : Place) (early : place.stage < 3) :
      ∀ check ∈ file.rules.flatMap checksOfTable ++
        [(Place.failOn, discard (chooseFailOn file.failOn))], place.Precedes check.1 := by
    intro check member
    rcases List.mem_append.1 member with member | member
    · exact .inl (by rwa [stage_of_mem_tables member])
    · obtain rfl := List.mem_singleton.1 member
      exact .inl (Nat.lt_succ_of_lt early)
  refine List.pairwise_cons.2 ⟨?_, List.pairwise_cons.2 ⟨?_, List.pairwise_cons.2 ⟨?_, ending⟩⟩⟩
  · exact List.forall_mem_cons.2 ⟨.inl Nat.zero_lt_one,
      List.forall_mem_cons.2 ⟨.inl Nat.zero_lt_two, single .profile (by decide)⟩⟩
  · exact List.forall_mem_cons.2 ⟨.inl Nat.one_lt_two, single .parallelism (by decide)⟩
  · exact single .ruleBudget (by decide)

/-- A setting of the file that the command line overrides does not matter. -/
theorem resolve_of_overridden (file : SettingsFile) (overrides : Overrides) :
    (overrides.profile.isSome → ∀ profile,
        resolve { file with profile } overrides = resolve file overrides) ∧
      (overrides.parallelism.isSome → ∀ parallelism,
        resolve { file with parallelism } overrides = resolve file overrides) ∧
      (overrides.ruleBudget.isSome → ∀ ruleBudget,
        resolve { file with ruleBudget } overrides = resolve file overrides) := by
  refine ⟨fun given profile => ?_, fun given parallelism => ?_, fun given ruleBudget => ?_⟩
  all_goals
    obtain ⟨_, overridden⟩ := Option.isSome_iff_exists.1 given
    simp only [resolve, overridden, Option.some_or]

/-- Settings cannot take effect iff some place is refused, and the first one that is refused is
told, with the tables of rules in the order of their identifiers and each of them looked through in
the order of its settings. What the command line overrides is not looked at. -/
theorem resolve_tells_first_refusal {file : SettingsFile} (sorted : Members.Sorted file.rules)
    (overrides : Overrides) :
    ((∃ error, resolve file overrides = .error error) ↔
        ∃ place error, Refuses file overrides place error) ∧
      (∀ error, resolve file overrides = .error error ↔
        ∃ place, Refuses file overrides place error ∧
          ∀ earlier, earlier.Precedes place → ∀ other, ¬ Refuses file overrides earlier other) ∧
      (overrides.profile.isSome → ∀ profile,
        resolve { file with profile } overrides = resolve file overrides) ∧
      (overrides.parallelism.isSome → ∀ parallelism,
        resolve { file with parallelism } overrides = resolve file overrides) ∧
      (overrides.ruleBudget.isSome → ∀ ruleBudget,
        resolve { file with ruleBudget } overrides = resolve file overrides) := by
  have told (error : SettingsError) : resolve file overrides = .error error ↔
      ∃ place, Refuses file overrides place error ∧
        ∀ earlier, earlier.Precedes place → ∀ other, ¬ Refuses file overrides earlier other := by
    rw [← discard_eq_error_iff, discard_resolve,
      forM_eq_error_iff_of_pairwise Place.Precedes (fun _ _ => Place.Precedes.asymm)
        (pairwise_checks sorted overrides)]
    simp only [mem_checks_iff]
  refine ⟨?_, told, resolve_of_overridden file overrides⟩
  constructor
  · rintro ⟨error, failed⟩
    obtain ⟨place, refuses, _⟩ := (told error).1 failed
    exact ⟨place, error, refuses⟩
  · rintro ⟨place, error, refuses⟩
    cases resolved : resolve file overrides with
    | error told => exact ⟨told, rfl⟩
    | ok settings =>
      have passed : (checks file overrides).forM Prod.snd = .ok () := by
        rw [← discard_resolve, resolved]
        rfl
      exact nomatch forM_eq_ok.1 passed _ (mem_checks_iff.2 refuses)

/-- A profile that is overridden, a malformed pattern before a severity that is unknown, and a least
failing severity that is unknown too. The file gives the tables in another order. -/
theorem resolve_tells_first_refusal_of_two_tables :
    let text := "profile = 'lax'\nfail_on = 'never'\n" ++
      "[rules.B]\nenabled = false\nseverity = 'fatal'\n[rules.A]\nallow = ['net.a', '[']\n"
    let file : SettingsFile :=
      { profile := some "lax", failOn := some "never"
        rules := [("A", { allow := ["net.a", "["] }),
          ("B", { enabled := some false, severity := some "fatal" })] }
    let overrides : Overrides := { profile := some "warn" }
    let error : SettingsError := .malformedPattern "A" ⟨"[", .unclosedClass⟩
    SettingsFile.read text = .ok file ∧ Members.Sorted file.rules ∧
      Refuses file overrides (.severity "B") (.unknownSeverity "B" "fatal") ∧
      (∃ place, Refuses file overrides place error ∧
        ∀ earlier, earlier.Precedes place → ∀ other, ¬ Refuses file overrides earlier other) ∧
      ∀ profile, resolve { file with profile } overrides = .error error := by
  intro text file overrides error
  have read : SettingsFile.read text = .ok file := toOption_eq_some_iff.1 (by decide +kernel)
  have sorted := SettingsFile.sorted_rules_of_read read
  have failed : resolve file overrides = .error error := by rfl
  obtain ⟨_, told, overridden, _⟩ := resolve_tells_first_refusal sorted overrides
  refine ⟨read, sorted, ?_, (told error).1 failed,
    fun profile => (overridden rfl profile).trans failed⟩
  exact .severity (List.mem_cons_of_mem _ List.mem_cons_self) rfl (by decide)

end Settings

end ConfigAudit
