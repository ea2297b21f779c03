import ConfigAudit.Glob.Matching

/-!
# Patterns as expressions over bytes

A pattern of plain text is compared with a path as it is. Any other pattern is matched as a regular
expression over bytes, and such an expression can nest only so deep: `Glob.nestsTooDeep` says which
patterns go beyond that, and `Glob.expressionText` is the written expression.
-/

namespace ConfigAudit

/-- A piece of the class of an expression. -/
inductive ClassItem where
  | byte (value : UInt8)
  | interval (first last : UInt8)
deriving DecidableEq, Repr

/-- A piece of an expression over bytes. -/
inductive ByteExpression where
  | byte (value : UInt8)
  /-- A byte that may be missing. -/
  | optionalByte (value : UInt8)
  | anyByte
  | anyBytes
  /-- One byte inside, or outside, of what the items take. -/
  | byteSet (negated : Bool) (items : List ClassItem)
  /-- One of several branches. -/
  | group (branches : List (List ByteExpression))
deriving Repr, Inhabited

namespace ByteExpression

/-- The character that separates the components of a path. -/
def slash : UInt8 := '/'.toUInt8

/-- The items of a class for a range: each byte of an end alone, but an interval from the last byte
of the first end to the first byte of the second one. -/
def itemsOfRange (range : Char × Char) : List ClassItem :=
  let first := Glob.charBytes range.1
  let last := Glob.charBytes range.2
  if range.1 = range.2 then first.map .byte
  else
    first.dropLast.map .byte ++
      .interval (first.getLastD 0) (last.headD 0) :: last.tail.map .byte

mutual

/-- The expressions of a piece of a pattern. Alternatives that say nothing leave none. -/
def ofToken : GlobToken → List ByteExpression
  | .literal character => (Glob.charBytes character).map .byte
  | .anyByte => [.anyByte]
  | .anyBytes => [.anyBytes]
  | .leadingDirectories => [.group [[.optionalByte slash], [.anyBytes, .byte slash]]]
  | .trailingDirectories => [.byte slash, .anyBytes]
  | .innerDirectories => [.group [[.byte slash], [.byte slash, .anyBytes, .byte slash]]]
  | .byteSet negated ranges => [.byteSet negated (ranges.flatMap itemsOfRange)]
  | .alternatives branches =>
    match ofBranches branches with
    | [] => []
    | spoken => [.group spoken]

/-- The expressions of a branch. -/
def ofTokens : List GlobToken → List ByteExpression
  | [] => []
  | token :: rest => ofToken token ++ ofTokens rest

/-- The branches that say something. -/
def ofBranches : List (List GlobToken) → List (List ByteExpression)
  | [] => []
  | branch :: rest =>
    match ofTokens branch with
    | [] => ofBranches rest
    | spoken => spoken :: ofBranches rest

end

/-- One level for what consists of several parts, none for a single part. -/
def levelOfParts (count : Nat) : Nat :=
  if count ≤ 1 then 0 else 1

mutual

/-- The number of levels under an expression, its own one included. Repetitions, classes and groups
are levels, and so is a sequence of several parts or a choice between them. -/
def depth : ByteExpression → Nat
  | .byte _ | .anyByte => 0
  | .optionalByte _ | .anyBytes => 1
  | .byteSet _ items => 1 + levelOfParts items.length
  | .group branches => 1 + levelOfParts branches.length + depthOfBranches branches

/-- The greatest depth of the parts of a sequence. -/
def depthOfParts : List ByteExpression → Nat
  | [] => 0
  | part :: rest => Nat.max (depth part) (depthOfParts rest)

/-- The greatest depth of some branches. -/
def depthOfBranches : List (List ByteExpression) → Nat
  | [] => 0
  | branch :: rest =>
    Nat.max (levelOfParts branch.length + depthOfParts branch) (depthOfBranches rest)

end

/-- The characters that mean something else than themselves in an expression. -/
def metaCharacters : List Char :=
  ['\\', '.', '+', '*', '?', '(', ')', '|', '[', ']', '\x7b', '\x7d', '^', '$', '#', '&', '-', '~']

/-- Two hexadecimal digits. -/
def hexDigits (byte : UInt8) : List Char :=
  [Nat.digitChar (byte.toNat / 16), Nat.digitChar (byte.toNat % 16)]

/-- A byte as it is written: a character of its own if it is ASCII, else by its number. -/
def writeByte (byte : UInt8) : List Char :=
  if byte < 128 then
    let character := Char.ofNat byte.toNat
    if metaCharacters.contains character then ['\\', character] else [character]
  else '\\' :: 'x' :: hexDigits byte

/-- An item of a class as it is written. -/
def writeItem : ClassItem → List Char
  | .byte value => writeByte value
  | .interval first last => writeByte first ++ '-' :: writeByte last

mutual

/-- An expression as it is written. -/
def write : ByteExpression → List Char
  | .byte value => writeByte value
  | .optionalByte value => writeByte value ++ ['?']
  | .anyByte => ['.']
  | .anyBytes => ['.', '*']
  | .byteSet negated items =>
    '[' :: (if negated then ['^'] else []) ++ items.flatMap writeItem ++ [']']
  | .group branches => '(' :: '?' :: ':' :: writeBranches branches ++ [')']

/-- A sequence as it is written. -/
def writeParts : List ByteExpression → List Char
  | [] => []
  | part :: rest => write part ++ writeParts rest

/-- Branches as they are written, with bars between them. -/
def writeBranches : List (List ByteExpression) → List Char
  | [] => []
  | [branch] => writeParts branch
  | branch :: rest => writeParts branch ++ '|' :: writeBranches rest

end

end ByteExpression

namespace Glob

/-- The greatest depth of an expression that is matched. -/
def maxDepth : Nat := 250

/-- The expression of a pattern, without the marks around it. Directories alone match every
path. -/
def expression (glob : Glob) : List ByteExpression :=
  match glob.tokens with
  | [.leadingDirectories] => [.anyBytes]
  | tokens => ByteExpression.ofTokens tokens

/-- The written expression of a pattern. It is one over bytes, and has to match from the start of a
path to its end. -/
def expressionText (glob : Glob) : String :=
  "(?-u)^" ++ String.ofList (ByteExpression.writeParts glob.expression) ++ "$"

/-- Whether the expression of a pattern nests too deep. The expression and the marks around it are
a sequence, so they are one level by themselves. -/
def nestsTooDeep (glob : Glob) : Bool :=
  maxDepth < 1 + ByteExpression.depthOfParts glob.expression

/-- How a pattern is compared with a path. -/
inductive Comparison where
  /-- By a plain text: a name, an extension, or a start or an end of the path. -/
  | plain
  /-- By the extension first, and then by the expression alone. -/
  | extension
  /-- By the expression, together with those of other patterns. -/
  | expression
deriving DecidableEq, Repr

/-- How a pattern is compared with a path. -/
def comparison (glob : Glob) : Comparison :=
  let tokens := glob.tokens
  if namesFile tokens || namesExtension tokens || isPlainStart tokens || isPlainEnd tokens then
    .plain
  else if endsInExtension tokens then .extension
  else .expression

end Glob

end ConfigAudit
