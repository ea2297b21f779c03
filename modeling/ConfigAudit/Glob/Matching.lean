import ConfigAudit.Glob.Basic

/-!
# Matching a path against a glob pattern

A pattern is run over the bytes of a path with one mark for each place between two bytes: the
places at which a match of the pieces read so far can end. Each piece moves the marks, so the work
is bounded by the length of the pattern times that of the path, whatever the pattern.
-/

namespace ConfigAudit

namespace Glob

/-- The UTF-8 bytes of a character. -/
def charBytes (character : Char) : List UInt8 :=
  String.utf8EncodeChar character

/-- Whether a range of a class takes a byte. A range ends that have several bytes contributes each
of them, and the interval spans from the last byte of the first end to the first byte of the
second one. -/
def rangeTakes (byte : UInt8) (range : Char × Char) : Bool :=
  let first := charBytes range.1
  let last := charBytes range.2
  if range.1 = range.2 then first.contains byte
  else
    first.dropLast.contains byte || last.tail.contains byte ||
      (first.getLastD 0 ≤ byte && byte ≤ last.headD 0)

/-- Move each mark over one byte that is accepted; other marks are lost. -/
def stepWhere (accepts : UInt8 → Bool) (bytes : List UInt8) (marks : List Bool) : List Bool :=
  false :: List.zipWith (fun marked byte => marked && accepts byte) marks bytes

/-- Mark every place at or after a marked one. -/
def spread (seen : Bool) : List Bool → List Bool
  | [] => []
  | mark :: marks => (seen || mark) :: spread (seen || mark) marks

/-- Mark the places marked in either list. -/
def union (left right : List Bool) : List Bool :=
  List.zipWith (· || ·) left right

/-- Move each mark over a slash. -/
def stepSlash (bytes : List UInt8) (marks : List Bool) : List Bool :=
  stepWhere (· == '/'.toUInt8) bytes marks

mutual

/-- Whether a piece says nothing: alternatives without a branch that says something. -/
def isVoid : GlobToken → Bool
  | .alternatives branches => areVoid branches
  | _ => false

/-- Whether no piece of a branch says anything. -/
def isVoidBranch : List GlobToken → Bool
  | [] => true
  | token :: rest => isVoid token && isVoidBranch rest

/-- Whether no branch says anything. -/
def areVoid : List (List GlobToken) → Bool
  | [] => true
  | branch :: rest => isVoidBranch branch && areVoid rest

end

mutual

/-- Move the marks over a piece. -/
def advance (bytes : List UInt8) : GlobToken → List Bool → List Bool
  | .literal character, marks =>
    (charBytes character).foldl (fun marks byte => stepWhere (· == byte) bytes marks) marks
  | .anyByte, marks => stepWhere (fun _ => true) bytes marks
  | .anyBytes, marks => spread false marks
  | .leadingDirectories, marks => union marks (stepSlash bytes (spread false marks))
  | .trailingDirectories, marks => spread false (stepSlash bytes marks)
  | .innerDirectories, marks =>
    let afterSlash := stepSlash bytes marks
    union afterSlash (stepSlash bytes (spread false afterSlash))
  | .byteSet negated ranges, marks =>
    stepWhere (fun byte => ranges.any (rangeTakes byte) != negated) bytes marks
  | .alternatives branches, marks =>
    if areVoid branches then marks
    else advanceAny bytes branches marks (marks.map fun _ => false)

/-- Move the marks over the pieces of a branch. -/
def advanceAll (bytes : List UInt8) : List GlobToken → List Bool → List Bool
  | [], marks => marks
  | token :: rest, marks => advanceAll bytes rest (advance bytes token marks)

/-- Add the marks moved over each branch that says something. -/
def advanceAny (bytes : List UInt8) : List (List GlobToken) → List Bool → List Bool → List Bool
  | [], _, reached => reached
  | branch :: rest, marks, reached =>
    let reached :=
      if isVoidBranch branch then reached else union reached (advanceAll bytes branch marks)
    advanceAny bytes rest marks reached

end

/-- Whether the pieces match a whole byte sequence. -/
def acceptsBytes (tokens : List GlobToken) (bytes : List UInt8) : Bool :=
  match tokens with
  | [.leadingDirectories] => true
  | _ => (advanceAll bytes tokens (true :: bytes.map fun _ => false)).getLastD false

/-- Whether every piece is a literal, and none of them one of the given characters. -/
def areLiterals (excluded : List Char) (tokens : List GlobToken) : Bool :=
  tokens.all fun token =>
    match token.literal? with
    | some character => !excluded.contains character
    | none => false

/-- Directories and then a plain name: the pattern of one name in any directory. -/
def namesFile : List GlobToken → Bool
  | .leadingDirectories :: token :: rest => areLiterals ['/'] (token :: rest)
  | _ => false

/-- Anything and then a plain extension. -/
def namesExtension : List GlobToken → Bool
  | .leadingDirectories :: .anyBytes :: .literal '.' :: rest => areLiterals ['.', '/'] rest
  | .anyBytes :: .literal '.' :: rest => areLiterals ['.', '/'] rest
  | _ => false

/-- A plain text, with or without anything after it. -/
def isPlainStart (tokens : List GlobToken) : Bool :=
  match tokens.getLast? with
  | some .anyBytes => tokens.length > 1 && areLiterals [] tokens.dropLast
  | some .trailingDirectories => areLiterals [] tokens.dropLast
  | some _ => areLiterals [] tokens
  | none => false

/-- A plain text of more than a slash after anything, or after directories. -/
def isPlainEnd : List GlobToken → Bool
  | .leadingDirectories :: .literal character :: rest => areLiterals [] (.literal character :: rest)
  | .leadingDirectories :: .anyBytes :: rest => isPlainText rest
  | .leadingDirectories :: rest => isPlainText rest
  | .anyBytes :: rest => isPlainText rest
  | tokens => isPlainText tokens
where
  /-- A plain text of more than a slash. -/
  isPlainText (tokens : List GlobToken) : Bool :=
    areLiterals [] tokens && !tokens.isEmpty && tokens.filterMap GlobToken.literal? != ['/']

/-- Whether a pattern ends in a plain extension. -/
def endsInExtension (tokens : List GlobToken) : Bool :=
  match tokens.reverse.dropWhile (fun token => areLiterals ['.', '/'] [token]) with
  | .literal '.' :: _ => true
  | _ => false

/-- Whether a pattern speaks of the name of a file. It does if it is a plain name or extension, or
if it ends in a plain extension without being a plain start or end of a path. -/
def speaksOfName (tokens : List GlobToken) : Bool :=
  namesFile tokens || namesExtension tokens ||
    (endsInExtension tokens && !isPlainStart tokens && !isPlainEnd tokens)

/-- Whether the last component of a path is `..`, which is no name of a file. -/
def endsInParent (bytes : List UInt8) : Bool :=
  bytes.reverse.takeWhile (· != '/'.toUInt8) == ['.'.toUInt8, '.'.toUInt8]

/-- Whether a pattern matches a whole path. A pattern that speaks of the name of a file matches no
path that ends in `..`. -/
def «matches» (glob : Glob) (path : String) : Bool :=
  let bytes := path.toUTF8.toList
  acceptsBytes glob.tokens bytes && !(speaksOfName glob.tokens && endsInParent bytes)

end Glob

end ConfigAudit
