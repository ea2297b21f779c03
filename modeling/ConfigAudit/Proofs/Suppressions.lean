import ConfigAudit.Engine
import ConfigAudit.Proofs.Settings.Resolve

/-!
# Allowlists

An allowlist is unusable for one of two reasons: a pattern is malformed, or the patterns, though
each can be read, do not compile together. Resolving settings rules out the first reason, so that
options can be had whenever `EffectiveSettings.GlobSetsCompile`. What the options suppress for a
rule depends on the patterns of this rule only.
-/

namespace ConfigAudit

namespace Allowlist

/-- If each of some patterns can be read, they compile together. -/
def SetCompiles (patterns : List String) : Prop :=
  ∀ globs, patterns.mapM Glob.parse = .ok globs → checkDepth globs = .ok ()

instance decidableSetCompiles (patterns : List String) : Decidable (SetCompiles patterns) :=
  match read : patterns.mapM Glob.parse with
  | .error _ => isTrue fun _ parsed => nomatch read.symm.trans parsed
  | .ok globs =>
    decidable_of_iff (checkDepth globs = .ok ())
      ⟨fun compiled _ parsed => Except.ok.inj (read.symm.trans parsed) ▸ compiled,
        fun compiled => compiled globs read⟩

/-- Patterns make an allowlist if each can be read and they compile together. -/
theorem exists_compile_eq_ok {patterns : List String}
    (read : ∃ globs, patterns.mapM Glob.parse = .ok globs) (compiles : SetCompiles patterns) :
    ∃ allowlist, compile patterns = .ok allowlist := by
  obtain ⟨globs, parsed⟩ := read
  exact ⟨⟨patterns, globs⟩,
    bind_eq_ok.2 ⟨globs, mapError_eq_ok.2 parsed, bind_eq_ok.2 ⟨(), compiles globs parsed, rfl⟩⟩⟩

/-- Whether some patterns cover an address, once they are compiled. -/
def patternsCover (patterns : List String) (address : String) : Bool :=
  match compile patterns with
  | .ok allowlist => allowlist.covers address
  | .error _ => false

theorem patternsCover_of_compile {patterns : List String} {allowlist : Allowlist}
    (compiled : compile patterns = .ok allowlist) (address : String) :
    patternsCover patterns address = allowlist.covers address := by
  rw [patternsCover, compiled]

/-- Patterns make an allowlist iff each can be read and they compile together. It keeps them as
texts beside what was read. -/
theorem compile_eq_ok_iff {patterns : List String} {allowlist : Allowlist} :
    compile patterns = .ok allowlist ↔
      ∃ globs, patterns.mapM Glob.parse = .ok globs ∧ checkDepth globs = .ok () ∧
        allowlist = ⟨patterns, globs⟩ := by
  simp only [compile, bind_eq_ok, mapError_eq_ok]
  constructor
  · rintro ⟨globs, parsed, ⟨⟩, shallow, ⟨⟩⟩
    exact ⟨globs, parsed, shallow, rfl⟩
  · rintro ⟨globs, parsed, shallow, rfl⟩
    exact ⟨globs, parsed, (), shallow, rfl⟩

/-- Some pattern names an address, verbatim or as a glob. -/
def Names (patterns : List String) (address : String) : Prop :=
  ∃ pattern ∈ patterns,
    pattern = address ∨ ∃ glob, Glob.parse pattern = .ok glob ∧ glob.matches address = true

theorem Names.of_subset {patterns more : List String} {address : String}
    (named : Names patterns address) (subset : patterns ⊆ more) : Names more address := by
  obtain ⟨pattern, member, same⟩ := named
  exact ⟨pattern, subset member, same⟩

/-- An allowlist covers the addresses that its patterns name. -/
theorem covers_iff_of_compile {patterns : List String} {allowlist : Allowlist}
    (compiled : compile patterns = .ok allowlist) (address : String) :
    allowlist.covers address = true ↔ Names patterns address := by
  obtain ⟨globs, parsed, _, rfl⟩ := compile_eq_ok_iff.1 compiled
  simp only [covers, Bool.or_eq_true, List.contains_iff_mem, List.any_eq_true,
    mem_iff_of_mapM_eq_ok parsed]
  constructor
  · rintro (verbatim | ⟨glob, ⟨pattern, member, read⟩, matched⟩)
    · exact ⟨address, verbatim, .inl rfl⟩
    · exact ⟨pattern, member, .inr ⟨glob, read, matched⟩⟩
  · rintro ⟨pattern, member, rfl | ⟨glob, read, matched⟩⟩
    · exact .inl member
    · exact .inr ⟨glob, ⟨pattern, member, read⟩, matched⟩

end Allowlist

namespace EffectiveSettings

/-- The allowlist of each rule compiles if each of its patterns can be read. -/
def GlobSetsCompile (settings : EffectiveSettings) : Prop :=
  ∀ entry ∈ settings.rules, Allowlist.SetCompiles entry.2.allow

instance (settings : EffectiveSettings) : Decidable settings.GlobSetsCompile :=
  inferInstanceAs (Decidable (∀ entry ∈ settings.rules, Allowlist.SetCompiles entry.2.allow))

/-- The patterns of the addresses that a rule does not judge. -/
def allowed (settings : EffectiveSettings) (id : String) : List String :=
  ((settings.policy? id).map RulePolicy.allow).getD []

end EffectiveSettings

namespace Suppressions

/-- A rule is given an allowlist if its patterns make one, whatever the other rules have. -/
theorem exists_insert_eq_ok (suppressions : Suppressions) (id : String) {patterns : List String}
    (usable : ∃ allowlist, Allowlist.compile patterns = .ok allowlist) :
    ∃ extended, suppressions.insert id patterns = .ok extended := by
  obtain ⟨allowlist, compiled⟩ := usable
  unfold insert
  split
  · exact ⟨_, rfl⟩
  · exact ⟨_, bind_eq_ok.2 ⟨allowlist, compiled, rfl⟩⟩

/-- Patterns that are inserted for a rule are the ones that count for it, if there are any. -/
theorem suppresses_of_insert {suppressions extended : Suppressions} {key : String}
    {patterns : List String} (inserted : suppressions.insert key patterns = .ok extended)
    (id address : String) :
    extended.suppresses id address =
      if id = key ∧ patterns ≠ [] then Allowlist.patternsCover patterns address
      else suppressions.suppresses id address := by
  unfold insert at inserted
  split at inserted
  case isTrue none =>
    obtain rfl := List.isEmpty_iff.1 none
    cases inserted
    simp
  case isFalse some =>
    obtain ⟨allowlist, compiled, ⟨⟩⟩ := bind_eq_ok.1 inserted
    have listed : patterns ≠ [] := fun none => some (List.isEmpty_iff.2 none)
    rw [Allowlist.patternsCover_of_compile compiled, suppresses, Members.lookup_insert]
    by_cases same : id = key
    · simp [same, listed]
    · simp [same, suppresses]

/-- If each rule has one policy, only the patterns in its own policy count for it. -/
theorem suppresses_of_foldlM {policies : List (String × RulePolicy)}
    (sorted : Members.Sorted policies) {start final : Suppressions}
    (folded : policies.foldlM (fun suppressions entry => suppressions.insert entry.1 entry.2.allow)
      start = .ok final) (id address : String) :
    final.suppresses id address =
      if ((policies.lookup id).map RulePolicy.allow).getD [] = [] then start.suppresses id address
      else Allowlist.patternsCover (((policies.lookup id).map RulePolicy.allow).getD [])
        address := by
  induction policies generalizing start with
  | nil =>
    obtain rfl : start = final := by simpa [pure, Except.pure] using folded
    simp
  | cons entry rest inductionHypothesis =>
    obtain ⟨key, policy⟩ := entry
    obtain ⟨below, sortedRest⟩ := List.pairwise_cons.1 sorted
    rw [List.foldlM_cons] at folded
    obtain ⟨next, inserted, continued⟩ := bind_eq_ok.1 folded
    rw [inductionHypothesis sortedRest continued, suppresses_of_insert inserted]
    -- no later policy is one of the same rule, so what is inserted here is not replaced
    by_cases same : id = key
    · subst same
      by_cases none : policy.allow = [] <;> simp [Members.lookup_eq_none_of_lt below, none]
    · simp [Members.lookup_cons_of_ne same, same]

/-- The patterns that count for a rule. -/
def patterns (suppressions : Suppressions) (id : String) : List String :=
  ((suppressions.allowlists.lookup id).map Allowlist.patterns).getD []

/-- Each allowlist is the one that its own patterns make. -/
def IsCompiled (suppressions : Suppressions) : Prop :=
  ∀ id allowlist, suppressions.allowlists.lookup id = some allowlist →
    Allowlist.compile allowlist.patterns = .ok allowlist

theorem isCompiled_empty : empty.IsCompiled :=
  nofun

/-- Only patterns that were compiled are inserted. -/
theorem IsCompiled.insert {suppressions extended : Suppressions} {key : String}
    {patterns : List String} (sound : suppressions.IsCompiled)
    (inserted : suppressions.insert key patterns = .ok extended) : extended.IsCompiled := by
  unfold Suppressions.insert at inserted
  split at inserted
  case isTrue =>
    cases inserted
    exact sound
  case isFalse =>
    obtain ⟨allowlist, compiled, ⟨⟩⟩ := bind_eq_ok.1 inserted
    intro id found lookup
    rw [Members.lookup_insert] at lookup
    split at lookup
    · obtain rfl := Option.some.inj lookup
      obtain ⟨_, _, _, rfl⟩ := Allowlist.compile_eq_ok_iff.1 compiled
      exact compiled
    · exact sound id found lookup

/-- Suppressions are compiled after any number of insertions. -/
theorem isCompiled_of_foldlM {calls : List (String × List String)} {suppressions : Suppressions}
    (built : calls.foldlM (fun suppressions call => suppressions.insert call.1 call.2) empty =
      .ok suppressions) : suppressions.IsCompiled :=
  holds_of_foldlM_eq_ok IsCompiled.insert isCompiled_empty built

/-- A rule does not judge the addresses that its patterns name. -/
theorem IsCompiled.suppresses_iff {suppressions : Suppressions} (sound : suppressions.IsCompiled)
    (id address : String) :
    suppressions.suppresses id address = true ↔
      Allowlist.Names (suppressions.patterns id) address := by
  unfold suppresses Suppressions.patterns
  cases found : suppressions.allowlists.lookup id with
  | none => simp [Allowlist.Names]
  | some allowlist => exact Allowlist.covers_iff_of_compile (sound id allowlist found) address

/-- An insertion replaces the patterns of its rule, unless it has none, and no others. -/
theorem patterns_of_insert {suppressions extended : Suppressions} {key : String}
    {patterns : List String} (inserted : suppressions.insert key patterns = .ok extended)
    (id : String) :
    extended.patterns id =
      if id = key ∧ patterns ≠ [] then patterns else suppressions.patterns id := by
  unfold insert at inserted
  split at inserted
  case isTrue none =>
    obtain rfl := List.isEmpty_iff.1 none
    cases inserted
    simp
  case isFalse some =>
    obtain ⟨allowlist, compiled, ⟨⟩⟩ := bind_eq_ok.1 inserted
    obtain ⟨_, _, _, rfl⟩ := Allowlist.compile_eq_ok_iff.1 compiled
    have listed : patterns ≠ [] := fun none => some (List.isEmpty_iff.2 none)
    rw [Suppressions.patterns, Members.lookup_insert]
    by_cases same : id = key
    · simp [same, listed]
    · simp [same, Suppressions.patterns]

end Suppressions

namespace EngineOptions

/-- The options under settings suppress what the patterns of a rule cover, and have the budget of
the settings. -/
theorem of_ofSettings {settings : EffectiveSettings} {options : EngineOptions}
    (sorted : Members.Sorted settings.rules) (compiled : ofSettings settings = .ok options) :
    options.budget = settings.ruleBudget ∧ ∀ id address,
      options.suppressions.suppresses id address =
        Allowlist.patternsCover (settings.allowed id) address := by
  obtain ⟨suppressions, collected, ⟨⟩⟩ := bind_eq_ok.1 compiled
  refine ⟨rfl, fun id address => ?_⟩
  rw [Suppressions.suppresses_of_foldlM sorted collected]
  split
  case isTrue unlisted =>
    have none : settings.allowed id = [] := unlisted
    rw [none]
    rfl
  case isFalse => rfl

/-- There are options under settings whose patterns can all be read and compile together. -/
theorem exists_ofSettings_eq_ok {settings : EffectiveSettings}
    (wellFormed : Settings.AreWellFormed settings.rules) (compile : settings.GlobSetsCompile) :
    ∃ options, ofSettings settings = .ok options := by
  have inserted : ∀ entry ∈ settings.rules, ∀ suppressions : Suppressions,
      ∃ extended, suppressions.insert entry.1 entry.2.allow = .ok extended := by
    intro entry member suppressions
    apply suppressions.exists_insert_eq_ok
    exact Allowlist.exists_compile_eq_ok (wellFormed entry member) (compile entry member)
  obtain ⟨suppressions, collected⟩ := exists_foldlM_eq_ok inserted Suppressions.empty
  exact ⟨_, bind_eq_ok.2 ⟨suppressions, collected, rfl⟩⟩

end EngineOptions

end ConfigAudit
