import ConfigAudit.Glob.Basic

/-!
# Reading a glob pattern

A question mark stands for one byte, an asterisk for any number, brackets for a class of bytes,
braces for alternatives, and a backslash takes the meaning from the character after it. Two
asterisks stand for directories where they are a whole component of the path: at the start of the
pattern or of a branch, or after a slash, and before a slash or the end.
-/

namespace ConfigAudit

namespace Glob

/-- A group of alternatives whose end has not come yet: the pieces before it and its finished
branches, both last first. -/
structure OpenGroup where
  before : List GlobToken
  branches : List (List GlobToken)

/-- A class of bytes whose end has not come yet. -/
structure OpenClass where
  negated : Bool
  /-- The ranges so far, last first. -/
  ranges : List (Char × Char)
  /-- Whether nothing was read yet, so that a bracket or a dash stands for itself. -/
  atStart : Bool
  /-- Whether a dash was read that may continue the last range. -/
  afterDash : Bool

/-- What has been read of a pattern. -/
structure Progress where
  /-- The pieces of the branch being read, last first. -/
  current : List GlobToken
  /-- The open groups, innermost first. -/
  groups : List OpenGroup
  openClass : Option OpenClass

namespace Progress

/-- Nothing read yet. -/
def start : Progress := ⟨[], [], none⟩

/-- Add a piece to the branch being read. -/
def push (progress : Progress) (token : GlobToken) : Progress :=
  { progress with current := token :: progress.current }

/-- Open a group of alternatives. -/
def openGroup (progress : Progress) : Progress :=
  { progress with current := [], groups := ⟨progress.current, []⟩ :: progress.groups }

/-- End a branch; outside all groups a comma stands for itself. -/
def nextBranch (progress : Progress) : Progress :=
  match progress.groups with
  | [] => progress.push (.literal ',')
  | group :: outer =>
    let branches := progress.current.reverse :: group.branches
    { progress with current := [], groups := { group with branches } :: outer }

/-- Close the innermost group. -/
def closeGroup (progress : Progress) : Except GlobFlaw Progress :=
  match progress.groups with
  | [] => .error .unopenedAlternates
  | group :: outer =>
    let branches := (progress.current.reverse :: group.branches).reverse
    .ok { progress with current := .alternatives branches :: group.before, groups := outer }

/-- Put directories in place of the last piece, the slash before them; directories swallow
directories after them. -/
def replaceLast (progress : Progress) (token : GlobToken) : Progress :=
  match progress.current with
  | .leadingDirectories :: _ | .trailingDirectories :: _ => progress
  | _ :: rest => { progress with current := token :: rest }
  | [] => progress.push token

/-- Two asterisks that are no component of their own. -/
def pushPlainStars (progress : Progress) : Progress :=
  (progress.push .anyBytes).push .anyBytes

/-- Whether two asterisks after a character can begin a component of the path. -/
def componentMayStart (progress : Progress) (previous : Option Char) : Bool :=
  previous == some '/' ||
    (!progress.groups.isEmpty && (previous == some ',' || previous == some '\x7b'))

/-- Whether a character ends the branch being read. -/
def endsBranch (progress : Progress) (character : Char) : Bool :=
  !progress.groups.isEmpty && (character == ',' || character == '\x7d')

/-- Let the last range of a class end at a character. -/
def extendRange (openClass : OpenClass) (last : Char) : Except GlobFlaw OpenClass :=
  match openClass.ranges with
  | (first, _) :: rest =>
    if last < first then .error (.invalidRange first last)
    else
      .ok { openClass with ranges := (first, last) :: rest, atStart := false, afterDash := false }
  | [] => .ok openClass

/-- Add a character to a class. -/
def addToClass (openClass : OpenClass) (character : Char) : OpenClass :=
  { openClass with
    ranges := (character, character) :: openClass.ranges, atStart := false, afterDash := false }

/-- Close a class. A dash before the end stands for itself. -/
def closeClass (progress : Progress) (openClass : OpenClass) : Progress :=
  let ranges :=
    if openClass.afterDash then ('-', '-') :: openClass.ranges else openClass.ranges
  { progress with
    current := .byteSet openClass.negated ranges.reverse :: progress.current, openClass := none }

/-- Read a character inside a class. -/
def readInClass (progress : Progress) (openClass : OpenClass) (character : Char) :
    Except GlobFlaw Progress :=
  if character == ']' && !openClass.atStart then .ok (progress.closeClass openClass)
  else if character == '-' && !openClass.atStart && !openClass.afterDash then
    .ok { progress with openClass := some { openClass with afterDash := true } }
  else if openClass.afterDash then do
    let extended ← extendRange openClass character
    pure { progress with openClass := some extended }
  else .ok { progress with openClass := some (addToClass openClass character) }

end Progress

/-- Read the rest of a pattern after a character. -/
def readFrom (previous : Option Char) (progress : Progress) :
    List Char → Except GlobFlaw (List GlobToken)
  | [] =>
    if progress.openClass.isSome then .error .unclosedClass
    else if progress.groups.isEmpty then .ok progress.current.reverse
    else .error .unclosedAlternates
  | character :: rest =>
    match progress.openClass with
    | some openClass => do
      let progress ← progress.readInClass openClass character
      readFrom (some character) progress rest
    | none =>
      match character, rest with
      | '?', rest => readFrom (some '?') (progress.push .anyByte) rest
      | '*', '*' :: rest =>
        match rest with
        | [] =>
          if progress.current.isEmpty then readFrom none (progress.push .leadingDirectories) []
          else if progress.componentMayStart previous then
            readFrom none (progress.replaceLast .trailingDirectories) []
          else readFrom none progress.pushPlainStars []
        | '/' :: rest =>
          if progress.current.isEmpty then
            readFrom (some '/') (progress.push .leadingDirectories) rest
          else if progress.componentMayStart previous then
            readFrom (some '/') (progress.replaceLast .innerDirectories) rest
          else readFrom (some '/') (progress.pushPlainStars.push (.literal '/')) rest
        | next :: rest =>
          if !progress.current.isEmpty && progress.componentMayStart previous &&
              progress.endsBranch next then
            readFrom (some '*') (progress.replaceLast .trailingDirectories) (next :: rest)
          else readFrom (some '*') progress.pushPlainStars (next :: rest)
      | '*', rest => readFrom (some '*') (progress.push .anyBytes) rest
      | '[', '!' :: rest =>
        readFrom (some '!') { progress with openClass := some ⟨true, [], true, false⟩ } rest
      | '[', '^' :: rest =>
        readFrom (some '^') { progress with openClass := some ⟨true, [], true, false⟩ } rest
      | '[', rest =>
        readFrom (some '[') { progress with openClass := some ⟨false, [], true, false⟩ } rest
      | '\x7b', rest => readFrom (some '\x7b') progress.openGroup rest
      | '\x7d', rest => do
        let progress ← progress.closeGroup
        readFrom (some '\x7d') progress rest
      | ',', rest => readFrom (some ',') progress.nextBranch rest
      | '\\', [] => .error .danglingEscape
      | '\\', escaped :: rest => readFrom (some escaped) (progress.push (.literal escaped)) rest
      | character, rest => readFrom (some character) (progress.push (.literal character)) rest

/-- Compile a pattern. -/
def parse (pattern : String) : Except GlobError Glob :=
  match readFrom none .start pattern.toList with
  | .ok tokens => .ok { pattern, tokens }
  | .error flaw => .error { pattern, flaw }

end Glob

end ConfigAudit
