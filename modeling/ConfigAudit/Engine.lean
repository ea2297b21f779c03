import ConfigAudit.ResultSet
import ConfigAudit.Rule.Set
import ConfigAudit.Suppressions
import ConfigAudit.Tree.OfJson

/-!
# The engine

An engine holds a rule set and options, and judges trees. A run looks at each resource with each
rule that applies to its kind, in the order of `Engine.workList`. A rule that breaks down does not
end the run: its complaint is the result. A run that is cancelled leaves out what it has not
looked at yet, and nothing else.

What a run cannot decide for itself is given by its `Circumstances`: when it is cancelled from
outside, and which judgements take longer than the budget allows.
-/

namespace ConfigAudit

/-- One resource to be judged by one rule. -/
structure WorkItem where
  resource : Resource
  attributes : Attributes
  rule : Rule

namespace WorkItem

/-- The result of an item. -/
def entry (item : WorkItem) (evaluation : Evaluation) : ResultEntry where
  resource := item.resource
  ruleId := item.rule.info.id
  ruleName := item.rule.info.name
  category := item.rule.info.category
  severity := item.rule.info.severity
  outcome := evaluation.outcome
  message := evaluation.message

end WorkItem

/-- What becomes of a run from outside. -/
structure Circumstances where
  /-- Whether someone cancels the run just before the item at a position is looked at. -/
  interruptedBefore : Nat → Bool := fun _ => false
  /-- Whether the judgement on an item takes longer than any budget. -/
  overruns : WorkItem → Bool := fun _ => false

/-- How an engine judges. -/
structure EngineOptions where
  /-- The number of workers. No result depends on it. -/
  workers : Option Nat := none
  /-- The time that one judgement may take, in milliseconds. -/
  budget : Option Nat := none
  suppressions : Suppressions := .empty

namespace EngineOptions

/-- The options under given settings. -/
def ofSettings (settings : EffectiveSettings) : Except AllowlistError EngineOptions := do
  let suppressions ← Suppressions.ofPolicies settings.rules
  pure { workers := settings.parallelism, budget := settings.ruleBudget, suppressions }

end EngineOptions

/-- What has become of the last run of an engine. -/
inductive RunState where
  /-- There was none. -/
  | idle
  | running
  | completed
  | cancelled
  /-- The input was no tree. -/
  | failed
deriving DecidableEq, Repr, Inhabited

/-- A rule set with options and the state of the last run. -/
structure Engine where
  rules : RuleSet
  options : EngineOptions := {}
  state : RunState := .idle

/-- The end of a run: the engine, whether the run's token is cancelled now, and the results. -/
structure RunReport where
  engine : Engine
  cancelled : Bool
  results : ResultSet

namespace Engine

/-- The resources of a tree, each with every rule that applies to its kind: resources in the order
of the tree, the rules of a resource in the order of registration. -/
def workList (engine : Engine) (tree : Tree) : List WorkItem :=
  tree.resources.flatMap fun (resource, attributes) =>
    (engine.rules.applicable resource.kind).map fun rule => { resource, attributes, rule }

/-- Whether the allowlist of a rule covers the resource of an item. -/
def isSuppressed (engine : Engine) (item : WorkItem) : Bool :=
  engine.options.suppressions.suppresses item.rule.info.id item.resource.address

/-- The judgement on an item. A resource on the rule's allowlist is not shown to the rule. -/
def evaluation (engine : Engine) (overruns : WorkItem → Bool) (item : WorkItem) : Evaluation :=
  if engine.isSuppressed item then
    .skipped ("suppressed by allowlist for " ++ item.rule.info.id)
  else
    match engine.options.budget with
    | none => (item.rule.evaluate item.attributes).evaluation
    | some budget =>
      if overruns item then
        .unknown ("rule exceeded its evaluation budget of " ++ Numeral.text budget ++ "ms")
      else (item.rule.evaluate item.attributes).evaluation

/-- The result of an item. -/
def resultEntry (engine : Engine) (overruns : WorkItem → Bool) (item : WorkItem) : ResultEntry :=
  item.entry (engine.evaluation overruns item)

/-- Whether looking at an item cancels the run. -/
def cancelsRun (engine : Engine) (item : WorkItem) : Bool :=
  !engine.isSuppressed item && item.rule.cancels item.attributes

/-- Look at items one after the other, the first of them at a position of the work list, until the
run is cancelled. An item that is left out has no result. Beside the results stands whether the
run is cancelled at the end. -/
def evaluateItems (engine : Engine) (circumstances : Circumstances) (cancelled : Bool)
    (position : Nat) : List WorkItem → List (Option ResultEntry) × Bool
  | [] => ([], cancelled)
  | item :: rest =>
    let cancelled := cancelled || circumstances.interruptedBefore position
    if cancelled then
      let (slots, cancelled) := engine.evaluateItems circumstances cancelled (position + 1) rest
      (none :: slots, cancelled)
    else
      let entry := engine.resultEntry circumstances.overruns item
      let (slots, cancelled) :=
        engine.evaluateItems circumstances (engine.cancelsRun item) (position + 1) rest
      (some entry :: slots, cancelled)

/-- The results in a list of slots. -/
def collect (slots : List (Option ResultEntry)) : ResultSet where
  entries := slots.filterMap id
  complete := slots.all Option.isSome

/-- The engine after a run with given results. -/
def finish (engine : Engine) (results : ResultSet) : Engine :=
  { engine with state := if results.complete then .completed else .cancelled }

/-- Judge a tree. The run starts with a token that may be cancelled already. -/
def run (engine : Engine) (tree : Tree) (circumstances : Circumstances) (cancelled : Bool) :
    RunReport :=
  let started := { engine with state := .running }
  let (slots, cancelled) :=
    started.evaluateItems circumstances cancelled 0 (started.workList tree)
  let results := collect slots
  { engine := started.finish results, cancelled, results }

/-- Judge the tree that a JSON value denotes. If it denotes none, the engine has failed and no rule
was asked. -/
def runJson (engine : Engine) (document : Json) (circumstances : Circumstances)
    (cancelled : Bool) : Engine × Except TreeError RunReport :=
  match Tree.ofJson document with
  | .error error => ({ engine with state := .failed }, .error error)
  | .ok tree =>
    let report := engine.run tree circumstances cancelled
    (report.engine, .ok report)

end Engine

end ConfigAudit
