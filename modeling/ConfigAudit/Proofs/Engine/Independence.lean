import ConfigAudit.Proofs.Engine

/-!
# Rules and kinds that do not look at each other

What a rule says of a resource depends on neither the other rules nor the other kinds of the tree. A
rule set from which rules are taken gives what is left of the entries of the whole set, a kind with
the same instances in another tree has the same entries, and an instance that is added to a kind
changes nothing of what was said before, unless it goes by a name that is taken:
`Engine.entries_independent`.
-/

namespace ConfigAudit

namespace ResultSet

/-- The entries on the resources of a kind. -/
def ofKind (results : ResultSet) (kind : String) : List ResultEntry :=
  results.entries.filter fun entry => entry.resource.kind == kind

end ResultSet

/-- If the items decide which of their results are kept, the items can be chosen first. -/
theorem filter_flatMap_of_forall {Item Result : Type} {expand : Item → List Result}
    {keep : Result → Bool} {keepItem : Item → Bool}
    (same : ∀ item, ∀ result ∈ expand item, keep result = keepItem item) (items : List Item) :
    (items.flatMap expand).filter keep = (items.filter keepItem).flatMap expand := by
  induction items with
  | nil => rfl
  | cons item rest inductionHypothesis =>
    rw [List.flatMap_cons, List.filter_append, inductionHypothesis, List.filter_congr (same item)]
    cases kept : keepItem item <;> simp [kept]

namespace Engine

variable {engine : Engine} {circumstances : Circumstances} {overruns : WorkItem → Bool}

theorem resource_of_mem_entriesOn {entry : Resource × Attributes} {found : ResultEntry}
    (member : found ∈ engine.entriesOn overruns entry) : found.resource = entry.1 := by
  obtain ⟨_, _, rfl⟩ := List.mem_map.1 member
  rfl

/-- With some of its rules an engine has the entries of these rules on a resource. -/
theorem entriesOn_of_sublist {kept : RuleSet} (indexed : engine.rules.Indexed)
    (sublist : kept.rules.Sublist engine.rules.rules) (entry : Resource × Attributes) :
    entriesOn { engine with rules := kept } overruns entry =
      (engine.entriesOn overruns entry).filter fun found =>
        (kept.rules.map (·.info.id)).contains found.ruleId := by
  have told := RuleSet.filter_ids_of_sublist sublist indexed.distinct
  rw [entriesOn, entriesOn, List.filter_map, List.filter_comm]
  exact congrArg (fun rules : List Rule =>
    (rules.filter fun rule => rule.info.kinds.includes entry.1.kind).map fun rule =>
      engine.resultEntry overruns { resource := entry.1, attributes := entry.2, rule }) told.symm

/-- With some of its rules an engine has the entries of these rules. -/
theorem entries_run_of_sublist {kept : RuleSet} (indexed : engine.rules.Indexed)
    (keptIndexed : kept.Indexed) (sublist : kept.rules.Sublist engine.rules.rules)
    (calm : ∀ rule ∈ engine.rules.rules, ∀ attributes, rule.cancels attributes = false)
    (overruns : WorkItem → Bool) (tree : Tree) :
    (run { engine with rules := kept } tree { overruns } false).results.entries =
      (engine.run tree { overruns } false).results.entries.filter fun entry =>
        (kept.rules.map (·.info.id)).contains entry.ruleId := by
  have keptCalm : ∀ rule ∈ kept.rules, ∀ attributes, rule.cancels attributes = false :=
    fun rule member => calm rule (sublist.subset member)
  rw [entries_run_eq_flatMap keptIndexed (undisturbed_of_calm keptCalm tree overruns),
    entries_run_eq_flatMap indexed (undisturbed_of_calm calm tree overruns), List.filter_flatMap]
  exact congrArg tree.resources.flatMap
    (funext fun entry => entriesOn_of_sublist indexed sublist entry)

/-- The entries on the resources of a kind come from the instances of this kind. -/
theorem ofKind_run (indexed : engine.rules.Indexed) {tree : Tree} {cancelled : Bool}
    (undisturbed : engine.Undisturbed tree circumstances cancelled) (kind : String) :
    (engine.run tree circumstances cancelled).results.ofKind kind =
      (Tree.resourcesOfKind kind (tree.instances kind)).flatMap
        (engine.entriesOn circumstances.overruns) := by
  have decided (entry : Resource × Attributes) :
      ∀ found ∈ engine.entriesOn circumstances.overruns entry,
        (found.resource.kind == kind) = (entry.1.kind == kind) := fun found member => by
    rw [resource_of_mem_entriesOn member]
  rw [ResultSet.ofKind, entries_run_eq_flatMap indexed undisturbed,
    filter_flatMap_of_forall decided, tree.filter_kind_resources]

/-- What a rule says of a resource depends on neither the other rules nor the other kinds. Some of
the rules of a rule set make one, and a run with these has the entries that a run with all has under
their identifiers. The entries on a kind are the same for all trees with the same instances of the
kind, and an instance that shares its name with none of them only adds entries of its own. -/
theorem entries_independent {rules kept : List Rule}
    (built : RuleSet.ofRules rules = .ok engine.rules) (sublist : kept.Sublist rules)
    (calm : ∀ rule ∈ rules, ∀ attributes, rule.cancels attributes = false)
    (overruns : WorkItem → Bool) (tree : Tree) :
    (∃ keptRules, RuleSet.ofRules kept = .ok keptRules ∧
        (run { engine with rules := keptRules } tree { overruns } false).results.entries =
          (engine.run tree { overruns } false).results.entries.filter fun entry =>
            (kept.map (·.info.id)).contains entry.ruleId) ∧
      (∀ kind (other : Tree), other.instances kind = tree.instances kind →
        (engine.run other { overruns } false).results.ofKind kind =
          (engine.run tree { overruns } false).results.ofKind kind) ∧
      ∀ kind (attributes : Attributes),
        (∀ known ∈ tree.instances kind, ¬ attributes.SharesName known) →
          ∃ added,
            (engine.run (tree.push kind attributes) { overruns } false).results.ofKind kind =
                (engine.run tree { overruns } false).results.ofKind kind ++ added ∧
              ∀ entry ∈ added, entry.resource.index = (tree.instances kind).length := by
  obtain ⟨indexed, rfl⟩ := RuleSet.indexed_of_ofRules built
  have ofKind (tree : Tree) (kind : String) :=
    ofKind_run indexed (undisturbed_of_calm calm tree overruns) kind
  refine ⟨?_, ?_, ?_⟩
  · have keptBuilt := RuleSet.ofRules_of_sublist built sublist
    obtain ⟨keptIndexed, keptRules⟩ := RuleSet.indexed_of_ofRules keptBuilt
    refine ⟨_, keptBuilt, ?_⟩
    have entries := entries_run_of_sublist indexed keptIndexed (by rwa [keptRules]) calm overruns
      tree
    rwa [keptRules] at entries
  · intro kind other same
    rw [ofKind, ofKind, same]
  · intro kind attributes unshared
    refine ⟨engine.entriesOn overruns
      (⟨kind, (tree.instances kind).length, attributes.candidateName?⟩, attributes), ?_, ?_⟩
    · have pushed : (tree.push kind attributes).instances kind =
          tree.instances kind ++ [attributes] := by
        rw [Tree.push, Tree.instances_declare, if_pos rfl]
      rw [ofKind, ofKind, pushed, Tree.resourcesOfKind_append unshared, List.flatMap_append,
        List.flatMap_singleton]
    · intro entry member
      rw [resource_of_mem_entriesOn member]

/-- A rule for all kinds taken away, another kind taken away, and a name that is not taken. -/
theorem entries_independent_of_two_rules :
    let general : Rule :=
      { info := ⟨"R1", "first", .logging, .info, .universal, .skip⟩
        evaluate := fun _ => .crashed none }
    let special : Rule :=
      { info := ⟨"R2", "second", .identity, .error, .ofList ["net"], .skip⟩
        evaluate := fun _ => .concluded .passed }
    let named (name : String) : Attributes := [("name", [.text name])]
    let engine : Engine :=
      { rules := (RuleSet.empty.append general).append special
        options := { suppressions := ⟨[("R2", ⟨["net.b"], []⟩)]⟩ } }
    let other := (Tree.empty.push "net" (named "a")).push "net" (named "b")
    let tree := other.push "disk" []
    RuleSet.ofRules [general, special] = .ok engine.rules ∧
      [special].Sublist [general, special] ∧
      (∀ rule ∈ [general, special], ∀ attributes, rule.cancels attributes = false) ∧
      other.instances "net" = tree.instances "net" ∧
      (∀ known ∈ tree.instances "net", ¬ (named "c").SharesName known) ∧
      (∃ keptRules, RuleSet.ofRules [special] = .ok keptRules ∧
        (run { engine with rules := keptRules } tree {} false).results.entries.map
            (fun entry => (entry.resource.address, entry.outcome)) =
          [("net.a", .passed), ("net.b", .skipped)]) ∧
      (engine.run other {} false).results.ofKind "net" =
        (engine.run tree {} false).results.ofKind "net" ∧
      (engine.run tree {} false).results.ofKind "net" <+:
        (engine.run (tree.push "net" (named "c")) {} false).results.ofKind "net" := by
  intro general special named engine other tree
  have built : RuleSet.ofRules [general, special] = .ok engine.rules :=
    RuleSet.ofRules_eq_ok (by decide +kernel) (by decide)
  have sublist : [special].Sublist [general, special] := List.sublist_cons_self _ _
  have calm : ∀ rule ∈ [general, special], ∀ attributes, rule.cancels attributes = false := by
    simp [general, special]
  have same : other.instances "net" = tree.instances "net" := by rfl
  have unshared : ∀ known ∈ tree.instances "net", ¬ (named "c").SharesName known := by
    have declared : tree.instances "net" = [named "a", named "b"] := by rfl
    rw [declared]
    rintro known member ⟨name, new, old⟩
    obtain rfl : "c" = name := Option.some.inj new
    rcases List.mem_cons.1 member with rfl | member
    · exact absurd (Option.some.inj old) (by decide)
    · obtain rfl := List.mem_singleton.1 member
      exact absurd (Option.some.inj old) (by decide)
  obtain ⟨⟨keptRules, keptBuilt, kept⟩, ofKind, appended⟩ :=
    entries_independent built sublist calm (fun _ => false) tree
  obtain ⟨added, extended, _⟩ := appended "net" (named "c") unshared
  refine ⟨built, sublist, calm, same, unshared, ⟨keptRules, keptBuilt, ?_⟩, ofKind "net" other same,
    ⟨added, extended.symm⟩⟩
  rw [kept, entries_run_eq_flatMap (RuleSet.indexed_of_ofRules built).1
    (undisturbed_of_calm calm tree fun _ => false)]
  decide +kernel

end Engine

end ConfigAudit
