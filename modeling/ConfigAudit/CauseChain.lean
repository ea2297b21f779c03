import ConfigAudit.Number.Numeral

/-!
# Chains of causes

A failure is told as a chain: what could not be done, and why, and why that. The chain is written
on one line, or as a headline with its causes below.

A text that is not of its format is refused by the reader of the format, who says where the flaw is
in words of its own. These words end the chain. They are a parameter, `Wording`, and nothing here
depends on them.
-/

namespace ConfigAudit

/-- What could not be done, and the causes, the nearest one first. -/
structure CauseChain where
  headline : String
  causes : List String := []
deriving DecidableEq, Repr, Inhabited

/-- A text that the reader of a format refuses. -/
inductive RefusedText where
  /-- A text that is not JSON. -/
  | json (text : String)
  /-- A text that is no settings file, and what does not fit in it, where that is known. -/
  | settings (text : String) (mismatch : Option String)
  /-- A text that is no timestamp. -/
  | timestamp (text : String)
deriving DecidableEq, Repr

/-- What the readers say of the texts that they refuse. -/
abbrev Wording : Type := RefusedText → String

/-- Words that do not tell where the flaw is. -/
def Wording.plain : Wording
  | .json _ => "malformed JSON"
  | .settings _ mismatch => mismatch.getD "malformed TOML"
  | .timestamp _ => "malformed timestamp"

namespace CauseChain

/-- The chain as the cause of something else that could not be done. -/
def under (chain : CauseChain) (headline : String) : CauseChain where
  headline := headline
  causes := chain.headline :: chain.causes

/-- The chain that ends with what a reader says, if it refuses a text. -/
def endingIn (chain : CauseChain) (wording : Wording) (refused : Option RefusedText) :
    CauseChain where
  headline := chain.headline
  causes := chain.causes ++ (refused.map wording).toList

/-- The chain on one line. -/
def inLine (chain : CauseChain) : String :=
  String.intercalate ": " (chain.headline :: chain.causes)

/-- A text whose lines after the first are indented. -/
def indentFollowing (indent text : String) : String :=
  String.ofList (text.toList.flatMap fun character =>
    if character = '\n' then '\n' :: indent.toList else [character])

/-- A position among several causes, set flush right. -/
def numbering (position : Nat) : String :=
  let digits := Numeral.digits position
  String.ofList (List.replicate (5 - digits.length) ' ' ++ digits) ++ ": "

/-- The lines of the causes. Several of them are numbered. -/
def causeLines : List String → List String
  | [cause] => ["    " ++ indentFollowing "    " cause]
  | causes =>
    causes.zipIdx.map fun (cause, position) =>
      numbering position ++ indentFollowing "       " cause

/-- The headline, and below it the causes. -/
def overLines (chain : CauseChain) : String :=
  if chain.causes.isEmpty then chain.headline
  else
    chain.headline ++ "\n\nCaused by:\n" ++ String.intercalate "\n" (causeLines chain.causes)

end CauseChain

end ConfigAudit
