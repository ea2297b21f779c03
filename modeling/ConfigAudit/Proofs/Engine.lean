import ConfigAudit.Engine
import ConfigAudit.Proofs.Rule.Set
import ConfigAudit.Proofs.Tree.Resources

/-!
# What a run finds

A run that nobody cancels judges every resource by every rule that includes its kind, once and in
order: `Engine.run_yields_due_entries`. What a rule is due to say is told by `Engine.dueEntry`, in
which a complaint and a crash of the rule are findings like any other.
-/

namespace ConfigAudit

namespace ResultEntry

/-- An entry comes before another one if its resource does, or, on one resource, if its rule comes
first in a list of identifiers. -/
def Precedes (ids : List String) (earlier later : ResultEntry) : Prop :=
  Resource.Precedes earlier.resource later.resource ∨
    earlier.resource = later.resource ∧ ids.idxOf earlier.ruleId < ids.idxOf later.ruleId

end ResultEntry

namespace Rule

/-- What a rule says of a resource that is shown to it. A breakdown is told with its text. -/
def finding (rule : Rule) (attributes : Attributes) : Outcome × Option String :=
  match rule.evaluate attributes with
  | .concluded evaluation => (evaluation.outcome, evaluation.message)
  | .faulted fault => (.unknown, some fault.message)
  | .crashed (some text) => (.unknown, some ("rule panicked: " ++ text))
  | .crashed none => (.unknown, some "rule panicked: non-string panic payload")

theorem evaluation_evaluate (rule : Rule) (attributes : Attributes) :
    (rule.evaluate attributes).evaluation =
      ⟨(rule.finding attributes).1, (rule.finding attributes).2⟩ := by
  unfold finding
  rcases rule.evaluate attributes with evaluation | fault | (_ | text) <;> rfl

end Rule

namespace Engine

/-- The entry of a rule on a resource if the rule has all the time it takes. -/
def dueEntry (engine : Engine) (resource : Resource) (attributes : Attributes) (rule : Rule) :
    ResultEntry :=
  let found :=
    if engine.options.suppressions.suppresses rule.info.id resource.address then
      (.skipped, some ("suppressed by allowlist for " ++ rule.info.id))
    else rule.finding attributes
  { resource
    ruleId := rule.info.id
    ruleName := rule.info.name
    category := rule.info.category
    severity := rule.info.severity
    outcome := found.1
    message := found.2 }

/-- Nobody cancels a run: not before it starts, not from outside, and no rule that is asked. -/
structure Undisturbed (engine : Engine) (tree : Tree) (circumstances : Circumstances)
    (cancelled : Bool) : Prop where
  fresh : cancelled = false
  outside : ∀ position < (engine.workList tree).length,
    circumstances.interruptedBefore position = false
  inside : ∀ item ∈ engine.workList tree, engine.cancelsRun item = false

variable {engine : Engine} {circumstances : Circumstances}

/-- Without a budget the entry of an item is the one that is due. -/
theorem resultEntry_eq_dueEntry (unlimited : engine.options.budget = none)
    (overruns : WorkItem → Bool) (item : WorkItem) :
    engine.resultEntry overruns item = engine.dueEntry item.resource item.attributes item.rule := by
  unfold resultEntry evaluation dueEntry isSuppressed
  cases engine.options.suppressions.suppresses item.rule.info.id item.resource.address with
  | true => rfl
  | false => simp [unlimited, WorkItem.entry, Rule.evaluation_evaluate]

/-- Nobody cancels the run from outside before one of several items iff nobody does so before the
first one, nor before one of the others. -/
theorem forall_interruptedBefore_succ_iff {position count : Nat} :
    (∀ offset < count + 1, circumstances.interruptedBefore (position + offset) = false) ↔
      circumstances.interruptedBefore position = false ∧
        ∀ offset < count, circumstances.interruptedBefore (position + 1 + offset) = false := by
  simp only [Nat.add_right_comm position 1]
  constructor
  · intro quiet
    exact ⟨quiet 0 (Nat.zero_lt_succ count),
      fun offset within => quiet (offset + 1) (Nat.succ_lt_succ within)⟩
  · rintro ⟨first, others⟩ (_ | offset) within
    · exact first
    · exact others offset (Nat.lt_of_succ_lt_succ within)

/-- Items are looked at one after the other as long as nobody cancels the run. -/
theorem evaluateItems_of_undisturbed {items : List WorkItem} {position : Nat}
    (outside : ∀ offset < items.length, circumstances.interruptedBefore (position + offset) = false)
    (inside : ∀ item ∈ items, engine.cancelsRun item = false) :
    engine.evaluateItems circumstances false position items =
      (items.map fun item => some (engine.resultEntry circumstances.overruns item), false) := by
  induction items generalizing position with
  | nil => rfl
  | cons item rest inductionHypothesis =>
    obtain ⟨notBefore, outsideRest⟩ := forall_interruptedBefore_succ_iff.1 outside
    obtain ⟨notWithin, insideRest⟩ := List.forall_mem_cons.1 inside
    have judgedRest := inductionHypothesis outsideRest insideRest
    simp [evaluateItems, notBefore, notWithin, judgedRest]

/-- A run is cancelled at its end unless it began with a fresh token and nobody cancelled it. -/
theorem evaluateItems_cancelled_eq_false {items : List WorkItem} {position : Nat}
    {cancelled : Bool}
    (ended : (engine.evaluateItems circumstances cancelled position items).2 = false) :
    cancelled = false ∧
      (∀ offset < items.length, circumstances.interruptedBefore (position + offset) = false) ∧
      ∀ item ∈ items, engine.cancelsRun item = false := by
  induction items generalizing position cancelled with
  | nil => exact ⟨ended, by simp, by simp⟩
  | cons item rest inductionHypothesis =>
    rw [evaluateItems] at ended
    cases stopped : cancelled || circumstances.interruptedBefore position with
    | true =>
      simp only [stopped, if_true] at ended
      exact absurd (inductionHypothesis ended).1 Bool.noConfusion
    | false =>
      simp only [stopped, Bool.false_eq_true, if_false] at ended
      obtain ⟨notWithin, outsideRest, insideRest⟩ := inductionHypothesis ended
      obtain ⟨fresh, notBefore⟩ := Bool.or_eq_false_iff.1 stopped
      exact ⟨fresh, forall_interruptedBefore_succ_iff.2 ⟨notBefore, outsideRest⟩,
        List.forall_mem_cons.2 ⟨notWithin, insideRest⟩⟩

/-- What a run that nobody cancels goes through. The state of the engine has no part in it. -/
theorem evaluateItems_running {tree : Tree} {cancelled : Bool}
    (undisturbed : engine.Undisturbed tree circumstances cancelled) :
    evaluateItems { engine with state := .running } circumstances cancelled 0
        (engine.workList tree) =
      ((engine.workList tree).map fun item =>
        some (engine.resultEntry circumstances.overruns item), false) := by
  obtain ⟨rfl, outside, inside⟩ := undisturbed
  exact evaluateItems_of_undisturbed (by simpa using outside) inside

/-- The token tells at the end of a run whether somebody cancelled it. -/
theorem cancelled_run_eq_false_iff {tree : Tree} {cancelled : Bool} :
    (engine.run tree circumstances cancelled).cancelled = false ↔
      engine.Undisturbed tree circumstances cancelled := by
  constructor
  · intro ended
    obtain ⟨fresh, outside, inside⟩ := evaluateItems_cancelled_eq_false ended
    exact ⟨fresh, fun position within => by simpa using outside position within, inside⟩
  · intro undisturbed
    exact congrArg Prod.snd (evaluateItems_running undisturbed)

/-- A run that nobody cancels has one result for each item of the work list. -/
theorem results_run {tree : Tree} {cancelled : Bool}
    (undisturbed : engine.Undisturbed tree circumstances cancelled) :
    (engine.run tree circumstances cancelled).results =
      { entries := (engine.workList tree).map (engine.resultEntry circumstances.overruns)
        complete := true } := by
  have collected := congrArg (fun slots => collect slots.1) (evaluateItems_running undisturbed)
  refine collected.trans ?_
  simp [collect, List.filterMap_map, Function.comp_def]

/-- An item stands for a rule of the engine. -/
theorem rule_mem_of_mem_workList {tree : Tree} {item : WorkItem}
    (member : item ∈ engine.workList tree) : item.rule ∈ engine.rules.rules := by
  obtain ⟨_, _, ofResource⟩ := List.mem_flatMap.1 member
  obtain ⟨rule, applicable, rfl⟩ := List.mem_map.1 ofResource
  obtain ⟨_, _, found⟩ := List.mem_filterMap.1 applicable
  exact List.mem_of_getElem? found

/-- Nobody cancels a run with a fresh token that is left alone, if no rule ever does. -/
theorem undisturbed_of_calm
    (calm : ∀ rule ∈ engine.rules.rules, ∀ attributes, rule.cancels attributes = false)
    (tree : Tree) (overruns : WorkItem → Bool) :
    engine.Undisturbed tree { overruns } false where
  fresh := rfl
  outside := fun _ _ => rfl
  inside := fun item member => by
    simp [cancelsRun, calm item.rule (rule_mem_of_mem_workList member)]

/-- The rules of a set of rules with distinct identifiers stand in the order of the list. -/
theorem pairwise_idxOf {rules : List Rule} (distinct : (rules.map (·.info.id)).Nodup) :
    rules.Pairwise fun earlier later =>
      (rules.map (·.info.id)).idxOf earlier.info.id <
        (rules.map (·.info.id)).idxOf later.info.id := by
  rw [List.pairwise_iff_getElem]
  intro left right leftWithin rightWithin before
  have position (index : Nat) (within : index < rules.length) :
      (rules.map (·.info.id)).idxOf rules[index].info.id = index := by
    have found := distinct.idxOf_getElem index (by simpa using within)
    simpa using found
  rwa [position left, position right]

/-- The entries that are due on the resources of a tree come in strictly ascending order. -/
theorem pairwise_dueEntry {rules : List Rule} (distinct : (rules.map (·.info.id)).Nodup)
    (tree : Tree) :
    (tree.resources.flatMap fun (resource, attributes) =>
      (rules.filter fun rule => rule.info.kinds.includes resource.kind).map
        (engine.dueEntry resource attributes)).Pairwise
      (ResultEntry.Precedes (rules.map (·.info.id))) := by
  rw [List.pairwise_flatMap]
  constructor
  · rintro ⟨resource, attributes⟩ _
    rw [List.pairwise_map]
    exact ((pairwise_idxOf distinct).filter _).imp fun before => .inr ⟨rfl, before⟩
  · refine tree.pairwise_resources.imp fun before left leftMember right rightMember => .inl ?_
    obtain ⟨_, _, rfl⟩ := List.mem_map.1 leftMember
    obtain ⟨_, _, rfl⟩ := List.mem_map.1 rightMember
    exact before

/-- The work list pairs each resource with the rules that include its kind. -/
theorem workList_eq (indexed : engine.rules.Indexed) (tree : Tree) :
    engine.workList tree = tree.resources.flatMap fun (resource, attributes) =>
      (engine.rules.rules.filter fun rule => rule.info.kinds.includes resource.kind).map fun rule =>
        { resource, attributes, rule } := by
  simp only [workList, indexed.applicable_eq_filter]

/-- The entries on a resource: one of each rule that includes its kind. -/
def entriesOn (engine : Engine) (overruns : WorkItem → Bool) (entry : Resource × Attributes) :
    List ResultEntry :=
  (engine.rules.rules.filter fun rule => rule.info.kinds.includes entry.1.kind).map fun rule =>
    engine.resultEntry overruns { resource := entry.1, attributes := entry.2, rule }

/-- The entries of a run that nobody cancels are those on the resources of the tree. -/
theorem entries_run_eq_flatMap (indexed : engine.rules.Indexed) {tree : Tree} {cancelled : Bool}
    (undisturbed : engine.Undisturbed tree circumstances cancelled) :
    (engine.run tree circumstances cancelled).results.entries =
      tree.resources.flatMap (engine.entriesOn circumstances.overruns) := by
  rw [results_run undisturbed, workList_eq indexed, List.map_flatMap]
  refine congrArg tree.resources.flatMap (funext fun entry => ?_)
  rw [entriesOn, List.map_map]
  rfl

/-- The entries of a run without a budget that nobody cancels are the due ones. -/
theorem entries_run (indexed : engine.rules.Indexed) (unlimited : engine.options.budget = none)
    {tree : Tree} {cancelled : Bool}
    (undisturbed : engine.Undisturbed tree circumstances cancelled) :
    (engine.run tree circumstances cancelled).results.entries =
      tree.resources.flatMap fun (resource, attributes) =>
        (engine.rules.rules.filter fun rule => rule.info.kinds.includes resource.kind).map
          (engine.dueEntry resource attributes) := by
  rw [entries_run_eq_flatMap indexed undisturbed]
  refine congrArg tree.resources.flatMap (funext fun entry => ?_)
  simp only [entriesOn, resultEntry_eq_dueEntry unlimited]

/-- A rule that no allowlist keeps from a resource has the outcome of its judgement. -/
theorem outcome_dueEntry {resource : Resource} {attributes : Attributes} {rule : Rule}
    (shown : engine.options.suppressions.suppresses rule.info.id resource.address = false) :
    (engine.dueEntry resource attributes rule).outcome =
      (rule.evaluate attributes).evaluation.outcome := by
  rw [Rule.evaluation_evaluate, dueEntry, shown]
  rfl

/-- Whatever the rules do, a run without a budget that nobody cancels completes, and its entries
are the due ones of each resource and each rule that includes its kind. Resources come by kind and
declaration, the rules of a resource by registration, and no pair comes twice. -/
theorem run_yields_due_entries {rules : List Rule} {tree : Tree} {cancelled : Bool}
    (built : RuleSet.ofRules rules = .ok engine.rules) (unlimited : engine.options.budget = none)
    (undisturbed : engine.Undisturbed tree circumstances cancelled) :
    (engine.run tree circumstances cancelled).results.entries =
        tree.resources.flatMap (fun (resource, attributes) =>
          (rules.filter fun rule => rule.info.kinds.includes resource.kind).map
            (engine.dueEntry resource attributes)) ∧
      tree.resources.map (fun (resource, attributes) =>
          (resource.kind, resource.index, attributes)) =
        tree.kinds.flatMap (fun (kind, instances) =>
          instances.zipIdx.map fun (attributes, index) => (kind, index, attributes)) ∧
      (engine.run tree circumstances cancelled).results.entries.Pairwise
        (ResultEntry.Precedes (rules.map (·.info.id))) ∧
      (engine.run tree circumstances cancelled).results.complete = true ∧
      (engine.run tree circumstances cancelled).engine.state = .completed := by
  obtain ⟨indexed, rfl⟩ := RuleSet.indexed_of_ofRules built
  have entries := entries_run indexed unlimited undisturbed
  have complete : (engine.run tree circumstances cancelled).results.complete = true := by
    rw [results_run undisturbed]
  refine ⟨entries, tree.map_resources, ?_, complete, ?_⟩
  · rw [entries]
    exact pairwise_dueEntry indexed.distinct tree
  · have ended : (engine.run tree circumstances cancelled).engine.state =
        if (engine.run tree circumstances cancelled).results.complete then .completed
        else .cancelled := rfl
    rw [ended, complete, if_pos rfl]

/-- A rule for all kinds that crashes, and an allowed resource of the one kind of another rule. -/
theorem run_yields_due_entries_after_crash :
    let crashing : Rule :=
      { info := ⟨"R1", "first", .logging, .info, .universal, .skip⟩
        evaluate := fun _ => .crashed (some "boom") }
    let passing : Rule :=
      { info := ⟨"R2", "second", .identity, .error, .ofList ["net"], .skip⟩
        evaluate := fun _ => .concluded .passed }
    let engine : Engine :=
      { rules := (RuleSet.empty.append crashing).append passing
        options := { suppressions := ⟨[("R2", ⟨["net[0]"], []⟩)]⟩ } }
    let tree := ((Tree.empty.push "net" []).push "disk" []).push "net" []
    RuleSet.ofRules [crashing, passing] = .ok engine.rules ∧ engine.options.budget = none ∧
      engine.Undisturbed tree {} false ∧
      (engine.run tree {} false).results.entries.map
          (fun entry => (entry.resource.address, entry.ruleId, entry.outcome, entry.message)) =
        [("disk[0]", "R1", .unknown, some "rule panicked: boom"),
          ("net[0]", "R1", .unknown, some "rule panicked: boom"),
          ("net[0]", "R2", .skipped, some "suppressed by allowlist for R2"),
          ("net[1]", "R1", .unknown, some "rule panicked: boom"),
          ("net[1]", "R2", .passed, none)] := by
  intro crashing passing engine tree
  have built : RuleSet.ofRules [crashing, passing] = .ok engine.rules :=
    RuleSet.ofRules_eq_ok (by decide +kernel) (by decide)
  have calm : ∀ rule ∈ engine.rules.rules, ∀ attributes, rule.cancels attributes = false := by
    simp [engine, RuleSet.rules_append, RuleSet.empty, crashing, passing]
  have undisturbed := undisturbed_of_calm calm tree fun _ => false
  refine ⟨built, rfl, undisturbed, ?_⟩
  rw [(run_yields_due_entries built rfl undisturbed).1]
  decide +kernel

end Engine

end ConfigAudit
