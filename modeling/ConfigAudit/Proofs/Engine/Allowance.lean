import ConfigAudit.Proofs.Engine
import ConfigAudit.Proofs.ResultSet
import ConfigAudit.Proofs.Suppressions

/-!
# Longer allowlists

What is added to the allowlist of a rule can only relax a run. The entries of the rule on the
addresses that the patterns name become skipped, whatever the rule has to say of them or however
long it takes, all other entries stay as they are, and the verdict does not get worse:
`Engine.run_of_longer_allowlist`.
-/

namespace ConfigAudit

namespace ResultEntry

/-- The entry of a rule that is not asked. -/
def suppressed (entry : ResultEntry) : ResultEntry :=
  { entry with
    outcome := .skipped
    message := some ("suppressed by allowlist for " ++ entry.ruleId) }

end ResultEntry

namespace Suppressions

/-- Patterns that are given to a rule in place of some of them are the ones that count for it. -/
theorem patterns_insert_of_subset {suppressions extended : Suppressions} {key : String}
    {patterns : List String} (inserted : suppressions.insert key patterns = .ok extended)
    (longer : suppressions.patterns key ⊆ patterns) : extended.patterns key = patterns := by
  rw [patterns_of_insert inserted]
  split
  case isTrue => rfl
  case isFalse unchanged =>
    have none : patterns = [] := by simpa using unchanged
    rw [none] at longer ⊢
    exact List.subset_nil.1 longer

/-- Longer allowlists suppress all that was suppressed before. -/
theorem suppresses_of_subset {suppressions extended : Suppressions} {key : String}
    {patterns : List String} (sound : suppressions.IsCompiled)
    (inserted : suppressions.insert key patterns = .ok extended)
    (longer : suppressions.patterns key ⊆ patterns) {id address : String}
    (suppressed : suppressions.suppresses id address = true) :
    extended.suppresses id address = true := by
  rw [sound.suppresses_iff] at suppressed
  rw [(sound.insert inserted).suppresses_iff]
  by_cases same : id = key
  · subst same
    rw [patterns_insert_of_subset inserted longer]
    exact suppressed.of_subset longer
  · rw [patterns_of_insert inserted, if_neg fun changed => same changed.1]
    exact suppressed

end Suppressions

namespace Engine

variable {engine : Engine} {circumstances : Circumstances} {cancelled : Bool} {tree : Tree}
  {extended : Suppressions} {id : String}

/-- The engine with other allowlists. -/
def withSuppressions (engine : Engine) (suppressions : Suppressions) : Engine :=
  { engine with options := { engine.options with suppressions } }

/-- The entry of an item that is suppressed says so, whatever it would say otherwise. -/
theorem resultEntry_of_isSuppressed {item : WorkItem} {overruns : WorkItem → Bool}
    (suppressed : engine.isSuppressed item = true) (evaluation : Evaluation) :
    engine.resultEntry overruns item = (item.entry evaluation).suppressed := by
  rw [resultEntry, Engine.evaluation, if_pos suppressed]
  rfl

/-- An item that neither of two allowlists suppresses has one entry under both. -/
theorem resultEntry_withSuppressions {item : WorkItem} (overruns : WorkItem → Bool)
    (before : engine.isSuppressed item = false)
    (after : (engine.withSuppressions extended).isSuppressed item = false) :
    (engine.withSuppressions extended).resultEntry overruns item =
      engine.resultEntry overruns item := by
  simp only [resultEntry, evaluation, before, after]
  rfl

/-- What more patterns for a rule make of an entry. -/
def relax (extended : Suppressions) (id : String) (entry : ResultEntry) : ResultEntry :=
  if entry.ruleId = id ∧ extended.suppresses id entry.resource.address = true then entry.suppressed
  else entry

/-- With more patterns for a rule an item has the relaxed entry. -/
theorem resultEntry_eq_relax {item : WorkItem} (overruns : WorkItem → Bool)
    (more : ∀ address, engine.options.suppressions.suppresses id address = true →
      extended.suppresses id address = true)
    (others : ∀ other, other ≠ id → ∀ address, extended.suppresses other address =
      engine.options.suppressions.suppresses other address) :
    (engine.withSuppressions extended).resultEntry overruns item =
      relax extended id (engine.resultEntry overruns item) := by
  have told : (engine.resultEntry overruns item).ruleId = item.rule.info.id := rfl
  have place : (engine.resultEntry overruns item).resource = item.resource := rfl
  rw [relax, told, place]
  by_cases same : item.rule.info.id = id
  · subst same
    cases after : extended.suppresses item.rule.info.id item.resource.address with
    | true =>
      rw [if_pos ⟨rfl, rfl⟩]
      have suppressed : (engine.withSuppressions extended).isSuppressed item = true := after
      exact resultEntry_of_isSuppressed suppressed _
    | false =>
      rw [if_neg nofun]
      have before : engine.isSuppressed item = false :=
        Bool.eq_false_iff.2 fun suppressed => Bool.eq_false_iff.1 after (more _ suppressed)
      exact resultEntry_withSuppressions overruns before after
  · rw [if_neg fun relaxed => same relaxed.1]
    have unchanged : (engine.withSuppressions extended).isSuppressed item =
        engine.isSuppressed item := others _ same _
    simp only [resultEntry, evaluation, unchanged]
    rfl

/-- With more patterns nobody cancels a run that nobody cancels without them. -/
theorem Undisturbed.withSuppressions
    (undisturbed : engine.Undisturbed tree circumstances cancelled)
    (more : ∀ other address, engine.options.suppressions.suppresses other address = true →
      extended.suppresses other address = true) :
    (engine.withSuppressions extended).Undisturbed tree circumstances cancelled where
  fresh := undisturbed.fresh
  outside := undisturbed.outside
  inside := by
    intro item member
    have quiet := undisturbed.inside item member
    unfold cancelsRun at quiet ⊢
    cases before : engine.isSuppressed item with
    | true =>
      have after : (engine.withSuppressions extended).isSuppressed item = true := more _ _ before
      rw [after]
      rfl
    | false =>
      rw [before] at quiet
      have calm : item.rule.cancels item.attributes = false := quiet
      rw [calm, Bool.and_false]

/-- A result set whose entries are relaxed has no worse verdict. -/
theorem verdict_relax_le (results : ResultSet) (failOn : FailOn) :
    ResultSet.verdict { results with entries := results.entries.map (relax extended id) } failOn ≤
      results.verdict failOn := by
  rw [ResultSet.verdict_eq_ofFindings, ResultSet.verdict_eq_ofFindings]
  refine Verdict.ofFindings_le fun finding member => ?_
  simp only [ResultSet.findings, List.map_map, List.mem_map, Function.comp_apply] at member ⊢
  obtain ⟨entry, known, rfl⟩ := member
  unfold relax
  split
  · exact .inr rfl
  · exact .inl ⟨entry, known, rfl⟩

/-- More patterns for a rule only relax a run that nobody cancels. They make an allowlist if each can
be read and they compile together. The entries of the rule on addresses that they name become
skipped and say so, all other entries stay as they are, and the verdict is no worse. Before and
after, the rule is not asked about the addresses that one of its patterns names, verbatim or as a
glob. -/
theorem run_of_longer_allowlist {calls : List (String × List String)} {patterns : List String}
    (built : calls.foldlM (fun suppressions call => suppressions.insert call.1 call.2)
      Suppressions.empty = .ok engine.options.suppressions)
    (longer : engine.options.suppressions.patterns id ⊆ patterns)
    (valid : ∀ pattern ∈ patterns, ∃ glob, Glob.parse pattern = .ok glob)
    (compile : Allowlist.SetCompiles patterns)
    (undisturbed : engine.Undisturbed tree circumstances cancelled) :
    ∃ extended, engine.options.suppressions.insert id patterns = .ok extended ∧
      ((engine.withSuppressions extended).run tree circumstances cancelled).results =
        { (engine.run tree circumstances cancelled).results with
          entries := (engine.run tree circumstances cancelled).results.entries.map
            (relax extended id) } ∧
      (∀ address, engine.options.suppressions.suppresses id address = true ↔
        Allowlist.Names (engine.options.suppressions.patterns id) address) ∧
      (∀ address, extended.suppresses id address = true ↔ Allowlist.Names patterns address) ∧
      ∀ failOn,
        ((engine.withSuppressions extended).run tree circumstances cancelled).results.verdict
            failOn ≤
          (engine.run tree circumstances cancelled).results.verdict failOn := by
  have sound := Suppressions.isCompiled_of_foldlM built
  obtain ⟨extended, inserted⟩ := engine.options.suppressions.exists_insert_eq_ok id
    (Allowlist.exists_compile_eq_ok (exists_mapM_eq_ok_iff.2 valid) compile)
  have extendedSound := sound.insert inserted
  have more : ∀ other address, engine.options.suppressions.suppresses other address = true →
      extended.suppresses other address = true :=
    fun _ _ => Suppressions.suppresses_of_subset sound inserted longer
  have others : ∀ other, other ≠ id → ∀ address, extended.suppresses other address =
      engine.options.suppressions.suppresses other address := by
    intro other different address
    rw [Suppressions.suppresses_of_insert inserted, if_neg fun changed => different changed.1]
  have results : ((engine.withSuppressions extended).run tree circumstances cancelled).results =
      { (engine.run tree circumstances cancelled).results with
        entries := (engine.run tree circumstances cancelled).results.entries.map
          (relax extended id) } := by
    rw [results_run undisturbed,
      results_run (undisturbed.withSuppressions more), List.map_map]
    congr 1
    exact List.map_congr_left fun item _ => resultEntry_eq_relax _ (more id) others
  refine ⟨extended, inserted, results, sound.suppresses_iff id, ?_, fun failOn => ?_⟩
  · intro address
    rw [extendedSound.suppresses_iff, Suppressions.patterns_insert_of_subset inserted longer]
  · rw [results]
    exact verdict_relax_le _ failOn

/-- A rule that fails two resources of a kind and breaks down on one of another kind. One of the
resources is allowed from the start, the other two by a pattern that is added. -/
theorem run_of_longer_allowlist_of_pattern :
    let rule : Rule :=
      { info := ⟨"R", "rule", .logging, .error, .universal, .skip⟩
        evaluate := fun attributes =>
          if attributes.isEmpty then .crashed none else .concluded (.failed "open") }
    let named (name : String) : Attributes := [("name", [.text name])]
    let verbatim : Glob := ⟨"net.a", "net.a".toList.map .literal⟩
    let ofClass : Glob := ⟨"*[b0]*", [.anyBytes, .byteSet false [('b', 'b'), ('0', '0')], .anyBytes]⟩
    let patterns := ["net.a", "*[b0]*"]
    let engine : Engine :=
      { rules := RuleSet.empty.append rule
        options := { budget := some 5, suppressions := ⟨[("R", ⟨["net.a"], [verbatim]⟩)]⟩ } }
    let extended : Suppressions := ⟨[("R", ⟨patterns, [verbatim, ofClass]⟩)]⟩
    let tree := ((Tree.empty.push "net" (named "a")).push "net" (named "b")).push "disk" []
    [("R", ["net.a"])].foldlM (fun suppressions call => suppressions.insert call.1 call.2)
        Suppressions.empty = .ok engine.options.suppressions ∧
      engine.options.suppressions.patterns "R" ⊆ patterns ∧
      (∀ pattern ∈ patterns, ∃ glob, Glob.parse pattern = .ok glob) ∧
      Allowlist.SetCompiles patterns ∧ engine.Undisturbed tree {} false ∧
      (engine.run tree {} false).results.entries.map
          (fun entry => (entry.resource.address, entry.outcome)) =
        [("disk[0]", .unknown), ("net.a", .skipped), ("net.b", .failed)] ∧
      engine.options.suppressions.insert "R" patterns = .ok extended ∧
      ((engine.withSuppressions extended).run tree {} false).results =
        { (engine.run tree {} false).results with
          entries := (engine.run tree {} false).results.entries.map (relax extended "R") } ∧
      ((engine.withSuppressions extended).run tree {} false).results.entries.map
          (fun entry => (entry.resource.address, entry.outcome)) =
        [("disk[0]", .skipped), ("net.a", .skipped), ("net.b", .skipped)] ∧
      ((engine.withSuppressions extended).run tree {} false).results.verdict .error ≤
        (engine.run tree {} false).results.verdict .error := by
  intro rule named verbatim ofClass patterns engine extended tree
  have built : [("R", ["net.a"])].foldlM
      (fun suppressions call => suppressions.insert call.1 call.2) Suppressions.empty =
        .ok engine.options.suppressions := by
    rfl
  have inserted : engine.options.suppressions.insert "R" patterns = .ok extended := by
    rfl
  have longer : engine.options.suppressions.patterns "R" ⊆ patterns := by
    decide
  have valid : ∀ pattern ∈ patterns, ∃ glob, Glob.parse pattern = .ok glob :=
    List.forall_mem_cons.2 ⟨⟨verbatim, rfl⟩, List.forall_mem_singleton.2 ⟨ofClass, rfl⟩⟩
  have compile : Allowlist.SetCompiles patterns := by
    decide +kernel
  have calm : ∀ rule ∈ engine.rules.rules, ∀ attributes, rule.cancels attributes = false := by
    simp [engine, RuleSet.rules_append, RuleSet.empty, rule]
  have undisturbed := undisturbed_of_calm calm tree fun _ => false
  obtain ⟨_, insertedAgain, results, _, _, verdict⟩ :=
    run_of_longer_allowlist built longer valid compile undisturbed
  obtain rfl := Except.ok.inj (inserted.symm.trans insertedAgain)
  refine ⟨built, longer, valid, compile, undisturbed, ?_, inserted, results, ?_, verdict .error⟩
  · decide +kernel
  · decide +kernel

end Engine

end ConfigAudit
