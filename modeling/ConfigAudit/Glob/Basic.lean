/-!
# Glob patterns

The pieces of a compiled pattern and the ways in which a pattern can be malformed.
-/

namespace ConfigAudit

/-- A piece of a pattern. Patterns are compared with the UTF-8 bytes of a path, so a character
beyond ASCII is several bytes long. -/
inductive GlobToken where
  | literal (character : Char)
  /-- One byte of any kind, a slash included. -/
  | anyByte
  /-- Any number of bytes of any kind. -/
  | anyBytes
  /-- Nothing, or any directories before the rest of the path. -/
  | leadingDirectories
  /-- A slash and anything after it. -/
  | trailingDirectories
  /-- A slash, or any directories between two slashes. -/
  | innerDirectories
  /-- One byte inside, or outside, the given ranges. -/
  | byteSet (negated : Bool) (ranges : List (Char × Char))
  /-- One of several branches. -/
  | alternatives (branches : List (List GlobToken))
deriving Repr, Inhabited

/-- A way in which a pattern can be malformed. -/
inductive GlobFlaw where
  | unclosedClass
  | invalidRange (first last : Char)
  | unopenedAlternates
  | unclosedAlternates
  | danglingEscape
deriving DecidableEq, Repr

/-- A malformed pattern. -/
structure GlobError where
  pattern : String
  flaw : GlobFlaw
deriving DecidableEq, Repr

/-- A well-formed pattern with its pieces. -/
structure Glob where
  pattern : String
  tokens : List GlobToken
deriving Repr, Inhabited

namespace GlobFlaw

/-- The wording of a flaw. -/
def message : GlobFlaw → String
  | unclosedClass => "unclosed character class; missing ']'"
  | invalidRange first last =>
    "invalid range; '" ++ String.singleton first ++ "' > '" ++ String.singleton last ++ "'"
  | unopenedAlternates =>
    "unopened alternate group; missing '\x7b' (maybe escape '\x7d' with '[\x7d]'?)"
  | unclosedAlternates =>
    "unclosed alternate group; missing '\x7d' (maybe escape '\x7b' with '[\x7b]'?)"
  | danglingEscape => "dangling '\\'"

end GlobFlaw

namespace GlobError

/-- The wording of a malformed pattern. -/
def message (error : GlobError) : String :=
  "error parsing glob '" ++ error.pattern ++ "': " ++ error.flaw.message

end GlobError

namespace GlobToken

/-- The character of a literal piece. -/
def literal? : GlobToken → Option Char
  | .literal character => some character
  | _ => none

end GlobToken

end ConfigAudit
