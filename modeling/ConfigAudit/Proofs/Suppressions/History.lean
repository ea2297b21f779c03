import Mathlib.Data.List.Induction
import ConfigAudit.Proofs.Suppressions

/-!
# Allowlists after any calls

Allowlists are filled by one call after the other, each with patterns for some rule. A call that
fails and a call without patterns leave everything as it was; any other call gives its rule a list
in place of the one it had. So what is suppressed for a rule is told by the last call that was of
consequence for it: `Suppressions.IsLast`. `Suppressions.suppresses_after_calls` says so, and tells
what options under settings suppress, and when there are any.
-/

namespace ConfigAudit

/-! ## Valid patterns -/

namespace Allowlist

/-- A pattern can stand on an allowlist: it can be read, and its expression, if it is matched by
one, does not nest too deep. -/
def IsValid (pattern : String) : Prop :=
  ∃ glob, Glob.parse pattern = .ok glob ∧ (glob.comparison = .plain ∨ glob.nestsTooDeep = false)

instance (pattern : String) : Decidable (IsValid pattern) :=
  match read : Glob.parse pattern with
  | .error _ => isFalse fun ⟨_, parsed, _⟩ => nomatch read.symm.trans parsed
  | .ok glob =>
    decidable_of_iff (glob.comparison = .plain ∨ glob.nestsTooDeep = false)
      ⟨fun shallow => ⟨glob, read, shallow⟩,
        fun ⟨_, parsed, shallow⟩ => Except.ok.inj (read.symm.trans parsed) ▸ shallow⟩

theorem checkDepth_eq_ok_iff {globs : List Glob} :
    checkDepth globs = .ok () ↔
      ∀ glob ∈ globs, glob.comparison = .plain ∨ glob.nestsTooDeep = false := by
  unfold checkDepth
  split
  case h_1 glob found =>
    refine iff_of_false nofun fun shallow => ?_
    have deep := List.find?_some found
    rcases shallow glob (List.mem_of_find?_eq_some found) with plain | flat
    · simp [plain] at deep
    · simp [flat] at deep
  case h_2 noneAlone =>
    simp only
    split
    case h_1 position found =>
      refine iff_of_false nofun fun shallow => ?_
      obtain ⟨within, deep, _⟩ := List.findIdx?_eq_some_iff_getElem.1 found
      obtain ⟨member, together⟩ := List.mem_filter.1 (List.getElem_mem within)
      rcases shallow _ member with plain | flat
      · simp [plain] at together
      · simp [flat] at deep
    case h_2 noneTogether =>
      refine iff_of_true rfl fun glob member => ?_
      cases comparison : glob.comparison with
      | plain => exact .inl rfl
      | extension =>
        exact .inr (by simpa [comparison] using List.find?_eq_none.1 noneAlone glob member)
      | expression =>
        have together : glob ∈ globs.filter (·.comparison = .expression) :=
          List.mem_filter.2 ⟨member, decide_eq_true comparison⟩
        exact .inr (List.findIdx?_eq_none_iff.1 noneTogether glob together)

/-- Patterns make an allowlist iff each of them can stand on one. -/
theorem exists_compile_eq_ok_iff {patterns : List String} :
    (∃ allowlist, compile patterns = .ok allowlist) ↔ ∀ pattern ∈ patterns, IsValid pattern := by
  simp only [compile_eq_ok_iff, checkDepth_eq_ok_iff]
  constructor
  · rintro ⟨_, globs, parsed, shallow, _⟩ pattern member
    obtain ⟨glob, read⟩ := exists_mapM_eq_ok_iff.1 ⟨globs, parsed⟩ pattern member
    exact ⟨glob, read, shallow glob ((mem_iff_of_mapM_eq_ok parsed).2 ⟨pattern, member, read⟩)⟩
  · intro valid
    obtain ⟨globs, parsed⟩ := exists_mapM_eq_ok_iff.2 fun pattern member =>
      (valid pattern member).imp fun _ read => read.1
    refine ⟨⟨patterns, globs⟩, globs, parsed, fun glob member => ?_, rfl⟩
    obtain ⟨pattern, listed, read⟩ := (mem_iff_of_mapM_eq_ok parsed).1 member
    obtain ⟨_, readAgain, shallow⟩ := valid pattern listed
    obtain rfl := Except.ok.inj (read.symm.trans readAgain)
    exact shallow

/-- If patterns compile together whenever each of them can be read, only one that cannot be read is
invalid. -/
theorem exists_not_isValid_iff_of_setCompiles {patterns : List String}
    (compiles : SetCompiles patterns) :
    (∃ pattern ∈ patterns, ¬ IsValid pattern) ↔
      ∃ pattern ∈ patterns, ∀ glob, Glob.parse pattern ≠ .ok glob := by
  have valid_iff : (∀ pattern ∈ patterns, IsValid pattern) ↔
      ∀ pattern ∈ patterns, ∃ glob, Glob.parse pattern = .ok glob := by
    constructor
    · exact fun valid pattern member => (valid pattern member).imp fun _ read => read.1
    · intro readable
      exact exists_compile_eq_ok_iff.1
        (exists_compile_eq_ok (exists_mapM_eq_ok_iff.2 readable) compiles)
  have opposite := not_congr valid_iff
  simpa only [Classical.not_forall, exists_prop, not_exists] using opposite

/-- Valid patterns cover what they name. -/
theorem patternsCover_iff_of_isValid {patterns : List String}
    (valid : ∀ pattern ∈ patterns, IsValid pattern) (address : String) :
    patternsCover patterns address = true ↔ Names patterns address := by
  obtain ⟨allowlist, compiled⟩ := exists_compile_eq_ok_iff.2 valid
  rw [patternsCover_of_compile compiled, covers_iff_of_compile compiled]

end Allowlist

namespace Suppressions

/-! ## Calls one after the other -/

/-- A call of consequence: it has patterns, and all of them are valid. -/
def IsTaken (call : String × List String) : Prop :=
  call.2 ≠ [] ∧ ∀ pattern ∈ call.2, Allowlist.IsValid pattern

instance (call : String × List String) : Decidable (IsTaken call) :=
  inferInstanceAs (Decidable (call.2 ≠ [] ∧ ∀ pattern ∈ call.2, Allowlist.IsValid pattern))

/-- The last call of consequence for a rule is one with some patterns. -/
def IsLast (calls : List (String × List String)) (id : String) (patterns : List String) : Prop :=
  ∃ before after, calls = before ++ (id, patterns) :: after ∧ IsTaken (id, patterns) ∧
    ∀ call ∈ after, call.1 = id → ¬ IsTaken call

/-- What becomes of empty allowlists by calls one after the other, whatever the replies. -/
def afterCalls (calls : List (String × List String)) : Suppressions :=
  calls.foldl (fun suppressions call => (offer call.1 call.2 suppressions).2) empty

variable {suppressions : Suppressions} {id address : String} {patterns : List String}
  {call : String × List String} {calls : List (String × List String)}

/-- A call changes allowlists in use as an insertion does, if it does not fail. -/
theorem offer_apply (id : String) (patterns : List String) (suppressions : Suppressions) :
    offer id patterns suppressions =
      match suppressions.insert id patterns with
      | .error error => (.error error, suppressions)
      | .ok extended => (.ok (), extended) := by
  cases patterns with
  | nil => rfl
  | cons pattern rest =>
    unfold offer insert
    cases Allowlist.compile (pattern :: rest) <;> rfl

/-- Patterns are inserted iff all of them are valid. -/
theorem exists_insert_eq_ok_iff :
    (∃ extended, suppressions.insert id patterns = .ok extended) ↔
      ∀ pattern ∈ patterns, Allowlist.IsValid pattern := by
  rw [← Allowlist.exists_compile_eq_ok_iff]
  cases patterns with
  | nil => exact iff_of_true ⟨suppressions, rfl⟩ ⟨⟨[], []⟩, rfl⟩
  | cons pattern rest =>
    simp only [insert, List.isEmpty_cons, Bool.false_eq_true, if_false, bind_eq_ok]
    constructor
    · rintro ⟨_, allowlist, compiled, _⟩
      exact ⟨allowlist, compiled⟩
    · rintro ⟨allowlist, compiled⟩
      exact ⟨_, allowlist, compiled, rfl⟩

/-- A call fails iff one of its patterns is invalid. -/
theorem exists_offer_eq_error_iff (suppressions : Suppressions) (id : String)
    (patterns : List String) :
    (∃ error, (offer id patterns suppressions).1 = .error error) ↔
      ∃ pattern ∈ patterns, ¬ Allowlist.IsValid pattern := by
  have refused : (∃ error, (offer id patterns suppressions).1 = .error error) ↔
      ∃ error, suppressions.insert id patterns = .error error := by
    rw [offer_apply]
    cases suppressions.insert id patterns <;> simp
  rw [refused, exists_eq_error_iff, exists_insert_eq_ok_iff]
  simp only [Classical.not_forall, exists_prop]

/-- A call that fails leaves allowlists as they are. -/
theorem offer_of_eq_error
    (failed : ∃ error, (offer id patterns suppressions).1 = .error error) :
    (offer id patterns suppressions).2 = suppressions := by
  rw [offer_apply] at failed ⊢
  cases inserted : suppressions.insert id patterns with
  | error error => rfl
  | ok extended => simp [inserted] at failed

/-- A call of no consequence fails or has no patterns, so it leaves allowlists as they are. -/
theorem offer_of_not_isTaken (untaken : ¬ IsTaken call) (suppressions : Suppressions) :
    (offer call.1 call.2 suppressions).2 = suppressions := by
  obtain ⟨id, patterns⟩ := call
  by_cases none : patterns = []
  · rw [none]
    rfl
  · have invalid : ∃ pattern ∈ patterns, ¬ Allowlist.IsValid pattern := by
      simpa [IsTaken, none] using untaken
    exact offer_of_eq_error ((exists_offer_eq_error_iff suppressions id patterns).2 invalid)

/-- A call of consequence gives its rule the addresses that the patterns name, whatever it had, and
leaves the other rules what they have. -/
theorem suppresses_offer_of_isTaken (taken : IsTaken call) (suppressions : Suppressions)
    (id address : String) :
    (offer call.1 call.2 suppressions).2.suppresses id address = true ↔
      if call.1 = id then Allowlist.Names call.2 address
      else suppressions.suppresses id address = true := by
  obtain ⟨key, patterns⟩ := call
  obtain ⟨listed, valid⟩ := taken
  obtain ⟨allowlist, compiled⟩ := Allowlist.exists_compile_eq_ok_iff.2 valid
  obtain ⟨extended, inserted⟩ := suppressions.exists_insert_eq_ok key ⟨allowlist, compiled⟩
  rw [offer_apply, inserted]
  simp only
  rw [suppresses_of_insert inserted]
  by_cases same : key = id
  · rw [if_pos ⟨same.symm, listed⟩, if_pos same, Allowlist.patternsCover_of_compile compiled,
      Allowlist.covers_iff_of_compile compiled]
  · rw [if_neg fun changed => same changed.1.symm, if_neg same]

/-! ## The last call of consequence -/

theorem afterCalls_append (calls : List (String × List String)) (call : String × List String) :
    afterCalls (calls ++ [call]) = (offer call.1 call.2 (afterCalls calls)).2 := by
  rw [afterCalls, List.foldl_append]
  rfl

/-- A further call is the last one for its rule if it is of consequence, and makes no difference
otherwise. -/
theorem isLast_append_iff :
    IsLast (calls ++ [call]) id patterns ↔
      call = (id, patterns) ∧ IsTaken call ∨
        (call.1 = id → ¬ IsTaken call) ∧ IsLast calls id patterns := by
  constructor
  · rintro ⟨before, after, same, taken, later⟩
    rcases after.eq_nil_or_concat with rfl | ⟨rest, last, rfl⟩
    · obtain ⟨_, singleton⟩ := List.append_inj' same rfl
      obtain rfl := List.singleton_inj.1 singleton
      exact .inl ⟨rfl, taken⟩
    · rw [List.concat_eq_append, ← List.cons_append, ← List.append_assoc] at same
      obtain ⟨rfl, singleton⟩ := List.append_inj' same rfl
      obtain rfl := List.singleton_inj.1 singleton
      exact .inr ⟨later call (by simp), before, rest, rfl, taken,
        fun other member => later other (by simp [member])⟩
  · rintro (⟨rfl, taken⟩ | ⟨untaken, before, after, rfl, taken, later⟩)
    · exact ⟨calls, [], rfl, taken, nofun⟩
    · refine ⟨before, after ++ [call], by simp, taken, fun other member => ?_⟩
      rcases List.mem_append.1 member with member | member
      · exact later other member
      · rwa [List.mem_singleton.1 member]

/-- What is suppressed for a rule after some calls is what the patterns of the last call of
consequence name. -/
theorem suppresses_afterCalls (calls : List (String × List String)) (id address : String) :
    (afterCalls calls).suppresses id address = true ↔
      ∃ patterns, IsLast calls id patterns ∧ Allowlist.Names patterns address := by
  induction calls using List.reverseRecOn with
  | nil =>
    refine iff_of_false nofun ?_
    rintro ⟨_, ⟨before, after, same, _⟩, _⟩
    exact absurd same.symm (by simp)
  | append_singleton calls call inductionHypothesis =>
    simp only [afterCalls_append, isLast_append_iff]
    by_cases taken : IsTaken call
    · rw [suppresses_offer_of_isTaken taken, inductionHypothesis]
      obtain ⟨key, last⟩ := call
      by_cases same : key = id
      · subst same
        simp [taken]
      · simp [same]
    · rw [offer_of_not_isTaken taken, inductionHypothesis]
      simp [taken]

end Suppressions

/-! ## Options under settings -/

namespace EngineOptions

/-- There are options under settings iff all patterns of all policies are valid. -/
theorem exists_ofSettings_eq_ok_iff {settings : EffectiveSettings} :
    (∃ options, ofSettings settings = .ok options) ↔
      ∀ entry ∈ settings.rules, ∀ pattern ∈ entry.2.allow, Allowlist.IsValid pattern := by
  constructor
  · rintro ⟨options, collected⟩ entry member
    obtain ⟨suppressions, folded, _⟩ := bind_eq_ok.1 collected
    obtain ⟨before, after, split⟩ := List.append_of_mem member
    rw [Suppressions.ofPolicies, split, List.foldlM_append] at folded
    obtain ⟨reached, _, continued⟩ := bind_eq_ok.1 folded
    rw [List.foldlM_cons] at continued
    obtain ⟨extended, inserted, _⟩ := bind_eq_ok.1 continued
    exact Suppressions.exists_insert_eq_ok_iff.1 ⟨extended, inserted⟩
  · intro valid
    have inserted : ∀ entry ∈ settings.rules, ∀ suppressions : Suppressions,
        ∃ extended, suppressions.insert entry.1 entry.2.allow = .ok extended :=
      fun entry member _ => Suppressions.exists_insert_eq_ok_iff.2 (valid entry member)
    obtain ⟨suppressions, folded⟩ := exists_foldlM_eq_ok inserted Suppressions.empty
    exact ⟨_, bind_eq_ok.2 ⟨suppressions, folded, rfl⟩⟩

/-- Options suppress what the patterns in the policy of a rule name. -/
theorem suppresses_iff_of_ofSettings {settings : EffectiveSettings} {options : EngineOptions}
    (sorted : Members.Sorted settings.rules) (compiled : ofSettings settings = .ok options)
    (id address : String) :
    options.suppressions.suppresses id address = true ↔
      ∃ policy, settings.policy? id = some policy ∧ Allowlist.Names policy.allow address := by
  have valid := exists_ofSettings_eq_ok_iff.1 ⟨options, compiled⟩
  rw [(of_ofSettings sorted compiled).2, EffectiveSettings.allowed]
  cases found : settings.policy? id with
  | none => exact iff_of_false nofun nofun
  | some policy =>
    have listed : (id, policy) ∈ settings.rules := Members.mem_of_lookup_eq_some found
    rw [Option.map_some, Option.getD_some,
      Allowlist.patternsCover_iff_of_isValid (valid (id, policy) listed)]
    simp

end EngineOptions

namespace Suppressions

/-- What allowlists suppress after any calls. A call fails iff one of its patterns is invalid, and
then leaves everything as it was, like a call without patterns. Any other call makes its rule pass
over the addresses that the new patterns name, whatever it had before, and no other rule. So a rule
does not judge an address iff the last call of consequence for it has a pattern that names the
address, verbatim or as a glob. Options cannot be had under settings iff some policy has an invalid
pattern; otherwise a rule does not judge what the patterns of its own policy name. A pattern is
invalid only if it cannot be read, unless those that can be read fail to compile together. -/
theorem suppresses_after_calls :
    (∀ (suppressions : Suppressions) id patterns,
      ((∃ error, (offer id patterns suppressions).1 = .error error) ↔
          ∃ pattern ∈ patterns, ¬ Allowlist.IsValid pattern) ∧
        ((∃ error, (offer id patterns suppressions).1 = .error error) ∨ patterns = [] →
          (offer id patterns suppressions).2 = suppressions) ∧
        ((offer id patterns suppressions).1 = .ok () → patterns ≠ [] → ∀ other address,
          (offer id patterns suppressions).2.suppresses other address = true ↔
            if id = other then Allowlist.Names patterns address
            else suppressions.suppresses other address = true)) ∧
      (∀ calls id address, (afterCalls calls).suppresses id address = true ↔
        ∃ patterns, IsLast calls id patterns ∧ Allowlist.Names patterns address) ∧
      (∀ settings : EffectiveSettings,
        ((∃ error, EngineOptions.ofSettings settings = .error error) ↔
            ∃ entry ∈ settings.rules, ∃ pattern ∈ entry.2.allow, ¬ Allowlist.IsValid pattern) ∧
          ∀ options, Members.Sorted settings.rules →
            EngineOptions.ofSettings settings = .ok options → ∀ id address,
              options.suppressions.suppresses id address = true ↔
                ∃ policy, settings.policy? id = some policy ∧
                  Allowlist.Names policy.allow address) ∧
      ∀ patterns, Allowlist.SetCompiles patterns →
        ((∃ pattern ∈ patterns, ¬ Allowlist.IsValid pattern) ↔
          ∃ pattern ∈ patterns, ∀ glob, Glob.parse pattern ≠ .ok glob) := by
  refine ⟨fun suppressions id patterns => ⟨exists_offer_eq_error_iff _ _ _, ?_, ?_⟩,
    suppresses_afterCalls, fun settings => ⟨?_, fun options sorted compiled =>
      EngineOptions.suppresses_iff_of_ofSettings sorted compiled⟩,
    fun patterns => Allowlist.exists_not_isValid_iff_of_setCompiles⟩
  · rintro (failed | rfl)
    · exact offer_of_eq_error failed
    · rfl
  · intro replied listed
    have valid : ∀ pattern ∈ patterns, Allowlist.IsValid pattern := by
      by_contra invalid
      have failed := (exists_offer_eq_error_iff suppressions id patterns).2 (by simpa using invalid)
      simp [replied] at failed
    have taken : IsTaken (id, patterns) := ⟨listed, valid⟩
    exact suppresses_offer_of_isTaken taken suppressions
  · rw [exists_eq_error_iff, EngineOptions.exists_ofSettings_eq_ok_iff]
    simp only [Classical.not_forall, exists_prop]

/-- Calls with good patterns, with a bad one among good ones, with none, and for another rule. -/
theorem suppresses_after_calls_of_five :
    let first := ("R", ["sa[1]"])
    let last := ("R", ["sa[0]", "nsg[[]0]"])
    let spoilt := ("R", ["sa[1]", "[z"])
    let calls := [first, last, spoilt, ("R", []), ("S", ["*"])]
    let settings : EffectiveSettings := { rules := [("R", { allow := last.2 }), ("S", {})] }
    (∃ error, (offer "R" spoilt.2 (afterCalls [first, last])).1 = .error error) ∧
      (offer "R" spoilt.2 (afterCalls [first, last])).2 = afterCalls [first, last] ∧
      (offer "R" last.2 (afterCalls [first])).1 = .ok () ∧ last.2 ≠ [] ∧
      (offer "R" last.2 (afterCalls [first])).2.suppresses "R" "sa[0]" = true ∧
      IsLast calls "R" last.2 ∧ (afterCalls calls).suppresses "R" "sa[0]" = true ∧
      ¬ (afterCalls calls).suppresses "R" "sa[1]" = true ∧
      Members.Sorted settings.rules ∧
      (∃ options, EngineOptions.ofSettings settings = .ok options ∧
        options.suppressions.suppresses "R" "sa[0]" = true ∧
        ¬ options.suppressions.suppresses "S" "sa[0]" = true) ∧
      Allowlist.SetCompiles spoilt.2 ∧
      ∃ pattern ∈ spoilt.2, ∀ glob, Glob.parse pattern ≠ .ok glob := by
  intro first last spoilt calls settings
  obtain ⟨onCall, afterAll, underSettings, unreadable⟩ := suppresses_after_calls
  have invalid : ∃ pattern ∈ spoilt.2, ¬ Allowlist.IsValid pattern := by
    decide +kernel
  have failed : ∃ error, (offer "R" spoilt.2 (afterCalls [first, last])).1 = .error error :=
    (onCall _ _ _).1.2 invalid
  have replied : (offer "R" last.2 (afterCalls [first])).1 = .ok () := by
    decide +kernel
  have listed : last.2 ≠ [] := by
    decide
  have verbatim : Allowlist.Names last.2 "sa[0]" := ⟨"sa[0]", List.mem_cons_self, .inl rfl⟩
  have isLast : IsLast calls "R" last.2 :=
    ⟨[first], [spoilt, ("R", []), ("S", ["*"])], rfl, by decide +kernel, by decide +kernel⟩
  have sorted : Members.Sorted settings.rules := by
    decide +kernel
  have valid : ¬ ∃ error, EngineOptions.ofSettings settings = .error error := by
    rw [(underSettings settings).1]
    decide +kernel
  have compiles : Allowlist.SetCompiles spoilt.2 := by
    decide +kernel
  obtain ⟨options, compiled⟩ : ∃ options, EngineOptions.ofSettings settings = .ok options := by
    rwa [exists_eq_error_iff, not_not] at valid
  have suppressed := (underSettings settings).2 options sorted compiled
  refine ⟨failed, (onCall _ _ _).2.1 (.inl failed), replied, listed, ?_, isLast, ?_, ?_, sorted,
    ⟨options, compiled, ?_, ?_⟩, compiles, (unreadable _ compiles).1 invalid⟩
  · rw [(onCall _ _ _).2.2 replied listed, if_pos rfl]
    exact verbatim
  · exact (afterAll _ _ _).2 ⟨_, isLast, verbatim⟩
  · decide +kernel
  · exact (suppressed _ _).2 ⟨{ allow := last.2 }, rfl, verbatim⟩
  · rintro allowed
    obtain ⟨policy, found, pattern, member, _⟩ := (suppressed _ _).1 allowed
    cases found
    exact nomatch member

end Suppressions

end ConfigAudit
