import ConfigAudit.Glob.Expression
import ConfigAudit.Glob.Parser
import ConfigAudit.Settings.Effective

/-!
# Suppressions

A rule does not judge the addresses on its allowlist. An entry of the list names an address
verbatim or as a glob pattern, so that an address with brackets can stand as it is although the
brackets also form a class of characters. A list with a malformed pattern, or with one whose
expression nests too deep, is refused.
-/

namespace ConfigAudit

/-- The patterns of a rule, as texts and compiled. -/
structure Allowlist where
  patterns : List String
  globs : List Glob
deriving Repr, Inhabited

/-- What makes an allowlist unusable. -/
inductive AllowlistError where
  | malformed (error : GlobError)
  /-- The expression of a pattern that is matched alone nests too deep. -/
  | tooDeepAlone (expression : String)
  /-- So does the one at a position among those that are matched together. -/
  | tooDeepTogether (position : Nat)
deriving DecidableEq, Repr

namespace AllowlistError

/-- The wording of what makes an allowlist unusable. -/
def message : AllowlistError → String
  | malformed error => error.message
  | tooDeepAlone expression =>
    "error parsing glob '" ++ expression ++ "': error parsing pattern 0"
  | tooDeepTogether position => "error parsing pattern " ++ toString position

end AllowlistError

namespace Allowlist

/-- Refuse patterns whose expression nests too deep, those that are matched alone before those that
are matched together. -/
def checkDepth (globs : List Glob) : Except AllowlistError Unit :=
  match globs.find? fun glob => glob.comparison = .extension && glob.nestsTooDeep with
  | some glob => .error (.tooDeepAlone glob.expressionText)
  | none =>
    let matchedTogether := globs.filter (·.comparison = .expression)
    match matchedTogether.findIdx? Glob.nestsTooDeep with
    | some position => .error (.tooDeepTogether position)
    | none => .ok ()

/-- Compile the patterns of a rule, in order. -/
def compile (patterns : List String) : Except AllowlistError Allowlist := do
  let globs ← (patterns.mapM Glob.parse).mapError AllowlistError.malformed
  checkDepth globs
  pure { patterns, globs }

/-- Whether an address stands on the list. -/
def covers (allowlist : Allowlist) (address : String) : Bool :=
  allowlist.patterns.contains address || allowlist.globs.any (·.matches address)

end Allowlist

/-- Rule identifiers in ascending order, each with its allowlist. -/
structure Suppressions where
  allowlists : List (String × Allowlist) := []
deriving Repr, Inhabited

namespace Suppressions

/-- No rule has an allowlist. -/
def empty : Suppressions := {}

/-- Give a rule an allowlist in place of the one it has. Without patterns nothing changes. -/
def insert (suppressions : Suppressions) (id : String) (patterns : List String) :
    Except AllowlistError Suppressions :=
  if patterns.isEmpty then .ok suppressions
  else do
    let allowlist ← Allowlist.compile patterns
    pure { allowlists := Members.insert id allowlist suppressions.allowlists }

/-- Call upon allowlists in use to take patterns for a rule, or to reply why not. -/
def offer (id : String) (patterns : List String) :
    StateM Suppressions (Except AllowlistError Unit) := do
  if patterns.isEmpty then return .ok ()
  match Allowlist.compile patterns with
  | .error error => return .error error
  | .ok allowlist =>
    modify fun suppressions =>
      { suppressions with allowlists := Members.insert id allowlist suppressions.allowlists }
    return .ok ()

/-- Whether a rule does not judge an address. -/
def suppresses (suppressions : Suppressions) (id address : String) : Bool :=
  match suppressions.allowlists.lookup id with
  | some allowlist => allowlist.covers address
  | none => false

/-- The allowlists of all policies. -/
def ofPolicies (policies : List (String × RulePolicy)) : Except AllowlistError Suppressions :=
  policies.foldlM (fun suppressions entry => suppressions.insert entry.1 entry.2.allow) empty

end Suppressions

end ConfigAudit
