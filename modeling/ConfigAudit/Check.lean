import ConfigAudit.Engine
import ConfigAudit.Fingerprint
import ConfigAudit.Json.Parser
import ConfigAudit.Report.Basic
import ConfigAudit.Settings.Load

/-!
# Checking a configuration

A check reads the settings and the tree, judges the tree by the rules of the catalog, and writes
down what came of it. What goes wrong on the way is a `CheckError`, the first in the order of the
stages.
-/

namespace ConfigAudit

/-- What a check is asked for. -/
structure CheckRequest where
  /-- The tree as a JSON document. -/
  treeText : String
  /-- The text of the settings file; blank if there is none. -/
  settingsText : String
  overrides : Overrides
  /-- Whether the run is cancelled before it starts. -/
  cancelled : Bool := false

/-- The reason why a check comes to no report. -/
inductive CheckError where
  | settings (fault : SettingsFault)
  /-- The tree is not JSON. -/
  | treeText
  | treeShape (error : TreeError)
  | ruleSet (error : RuleSetError)
  | allowlists (error : AllowlistError)
deriving DecidableEq, Repr

namespace CheckError

/-- The chain of causes, up to what the reader of a text says: `chainFor` adds that. -/
def chain : CheckError → CauseChain
  | settings fault => fault.chain
  | treeText => ⟨"parse configuration tree json", []⟩
  | treeShape error => ⟨"validate configuration tree", [error.message]⟩
  | ruleSet error => ⟨"build rule set", [error.message]⟩
  | allowlists error => ⟨"compile rule allowlists", [error.message]⟩

/-- The text of a request, if its reader refuses it. -/
def refused? (request : CheckRequest) : CheckError → Option RefusedText
  | settings fault => fault.refused? request.settingsText
  | treeText => some (.json request.treeText)
  | treeShape _ | ruleSet _ | allowlists _ => none

/-- The whole chain of causes for a request. What the reader of a text says comes last. -/
def chainFor (wording : Wording) (request : CheckRequest) (error : CheckError) : CauseChain :=
  error.chain.endingIn wording (error.refused? request)

end CheckError

/-- What comes of a check. -/
structure CheckOutcome where
  report : Report
  settings : EffectiveSettings

namespace Check

/-- The record of a result. -/
def record (entry : ResultEntry) : ResultRecord where
  ruleId := entry.ruleId
  ruleName := entry.ruleName
  category := entry.category
  severity := entry.severity
  outcome := entry.outcome
  resource :=
    { kind := entry.resource.kind
      index := UInt32.ofNat entry.resource.index
      name := entry.resource.name
      address := entry.resource.address }
  message := entry.message
  fingerprint := some (Fingerprint.ofFinding entry.ruleId entry.resource.address)

/-- Why the run that led to some results is not a full one. -/
def reasons (results : ResultSet) : List String :=
  (if results.complete then [] else ["run_cancelled"]) ++
    (if 0 < results.summary.unknown then ["unknown_outcomes"] else [])

/-- The report of a run. -/
def report (settings : EffectiveSettings) (tree : Tree) (rules : RuleSet) (results : ResultSet)
    (startedAt finishedAt : Timestamp) : Report where
  schema := Report.currentSchema
  tool := Report.ownTool
  startedAt := startedAt
  finishedAt := finishedAt
  verdict := results.verdict settings.failOn
  results := results.entries.map record
  data :=
    { profile := settings.profile.name
      resourcesScanned := UInt32.ofNat tree.resourceCount
      rulesLoaded := UInt32.ofNat rules.size
      complete := results.complete
      summary := results.summary
      reasons := reasons results }

/-- The tree of a document. -/
def readTree (text : String) : Except CheckError Tree :=
  match Json.parse? text with
  | none => .error .treeText
  | some document => (Tree.ofJson document).mapError .treeShape

/-- The engine that judges by the rules of the catalog under given settings. -/
def engine (settings : EffectiveSettings) : Except CheckError Engine := do
  let rules ← (Catalog.ruleSet settings Catalog.builtin).mapError CheckError.ruleSet
  let options ← (EngineOptions.ofSettings settings).mapError CheckError.allowlists
  pure { rules, options }

/-- Carry out a check between two points in time. -/
def run (request : CheckRequest) (startedAt finishedAt : Timestamp) :
    Except CheckError CheckOutcome := do
  let settings ←
    (Settings.load request.settingsText request.overrides).mapError CheckError.settings
  let tree ← readTree request.treeText
  let engine ← engine settings
  let results := (engine.run tree {} request.cancelled).results
  pure
    { report := report settings tree engine.rules results startedAt finishedAt
      settings }

/-- The exit code for a verdict: only a failure is told from the rest. -/
def exitCode : Verdict → Nat
  | .pass | .warn => 0
  | .fail => 2

end Check

end ConfigAudit
