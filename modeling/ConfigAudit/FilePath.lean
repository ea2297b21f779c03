/-!
# Paths of files

A path is a text. It is followed step by step, each step being a name, a dot or two dots between
slashes; `FilePath.ofText` cuts it into its steps, and a `Place` is where steps can lead.
`FilePath.outerDirectories` is about the text alone: how it spells the directories that it leads
through.
-/

namespace ConfigAudit

/-- A step of a path. -/
inductive PathStep where
  | stay
  | up
  | down (name : String)
deriving DecidableEq, Repr, Inhabited

/-- Where a path starts. -/
inductive Anchor where
  /-- The working directory, or the directory so many levels above it. -/
  | working (levelsUp : Nat)
  | root
deriving DecidableEq, Repr, Inhabited

/-- A place in a directory tree: the names that lead there, outermost first. -/
structure Place where
  anchor : Anchor
  names : List String := []
deriving DecidableEq, Repr, Inhabited

namespace Place

/-- The working directory. -/
def here : Place := ⟨.working 0, []⟩

/-- The place of a name in a directory. -/
def child (place : Place) (name : String) : Place :=
  { place with names := place.names ++ [name] }

/-- The directory in which a place lies. The root lies in itself. -/
def parent (place : Place) : Place :=
  match place.anchor, place.names with
  | .root, [] => place
  | .working levelsUp, [] => ⟨.working (levelsUp + 1), []⟩
  | anchor, names => ⟨anchor, names.dropLast⟩

/-- Where a step leads from a directory. -/
def take (place : Place) : PathStep → Place
  | .stay => place
  | .up => place.parent
  | .down name => place.child name

/-- Whether a place is another one or lies somewhere in it. -/
def isWithin (place outer : Place) : Bool :=
  place.anchor = outer.anchor && outer.names.isPrefixOf place.names

end Place

/-- A path that is cut into its steps. -/
structure FilePath where
  anchor : Anchor
  /-- The steps before the last one, which lead to a directory. -/
  lead : List PathStep
  last : PathStep
  /-- Whether a slash follows the last step, so that a directory is meant. -/
  endsInSlash : Bool
deriving DecidableEq, Repr, Inhabited

namespace FilePath

/-- The step of a part between slashes. -/
def stepOfPart : String → PathStep
  | "." => .stay
  | ".." => .up
  | name => .down name

/-- The parts between slashes. -/
def parts (characters : List Char) : List String :=
  (characters.splitOn '/').map String.ofList

/-- The steps of a path. Slashes in a row are one. -/
def steps (text : String) : List PathStep :=
  ((parts text.toList).filter (· != "")).map stepOfPart

/-- The path of a text. Without any step it stays where it starts. -/
def ofText (text : String) : FilePath where
  anchor := if text.toList.head? = some '/' then .root else .working 0
  lead := (steps text).dropLast
  last := (steps text).getLastD .stay
  endsInSlash := text.toList.getLast? = some '/'

/-- The place that steps lead to, whatever stands on the way. -/
def follow (text : String) : Place :=
  (steps text).foldl Place.take ⟨(ofText text).anchor, []⟩

/-- Whether a part of a path is no step of its own, unless it begins the path. -/
def isIdle (part : String) : Bool :=
  part == "" || part == "."

/-- What a path begins with, a slash or a dot before one, and the parts after it. -/
def splitStart (text : String) : String × List String :=
  match text.toList with
  | '/' :: rest => ("/", parts rest)
  | ['.'] => (".", [])
  | '.' :: '/' :: rest => (".", parts ('/' :: rest))
  | characters => ("", parts characters)

/-- The paths that end in a part, innermost first, given the start and the parts, last first. -/
def pathsThrough (start : String) : List String → List String
  | [] => if start == "" then [] else [start]
  | part :: outer =>
    if isIdle part then pathsThrough start outer
    else (start ++ "/".intercalate (part :: outer).reverse) :: pathsThrough start outer

/-- The directories in which a path lies, innermost first, in the spelling of the path. -/
def outerDirectories (text : String) : List String :=
  let (start, parts) := splitStart text
  (pathsThrough start parts.reverse).drop 1

end FilePath

end ConfigAudit
