import ConfigAudit.Toml.Scalar
import ConfigAudit.Toml.Statement
import ConfigAudit.Toml.Token

/-!
# Reading a TOML document

The tokens of a document drive a machine that collects its statements. `Toml.parse?` is the table
that the statements define. A value nested deeper than `maxDepth` is refused, and so is a key of
more than `maxParts` parts.
-/

namespace ConfigAudit

namespace Toml

/-- The deepest nesting of arrays and inline tables that is read. -/
def maxDepth : Nat := 80

/-- The most parts that a dotted key can have. -/
def maxParts : Nat := 80

/-- An open array with its items so far, last first, or an open inline table with its assignments
so far and the key whose value comes next. -/
inductive Frame where
  | items (done : List Toml)
  | members (done : List (Path × Toml)) (path : Path)

/-- Where a value belongs: the key of its statement, and the containers open around it, innermost
first. -/
structure Context where
  target : Path
  frames : List Frame

/-- What a key is read for. -/
inductive KeyRole where
  /-- The header of a table, or of an element of a sequence of tables. -/
  | header (isElement : Bool)
  | assignment
  /-- An assignment in an inline table. -/
  | member (done : List (Path × Toml)) (context : Context)

/-- What may come next. The parts of a key stand last first. -/
inductive Expectation where
  | lineStart
  | lineEnd
  /-- A bracket has begun a line. -/
  | headerStart
  | keyPart (role : KeyRole) (done : Path)
  /-- A dot, or what ends the key. -/
  | afterPart (role : KeyRole) (done : Path)
  /-- The second of two closing brackets. -/
  | headerEnd (path : Path)
  /-- The sign after the key of an inline table, on another line than the key. -/
  | sign (done : List (Path × Toml)) (path : Path) (context : Context)
  | value (context : Context)
  /-- More of a bare value. -/
  | bare (context : Context) (done : List Char)
  /-- A blank has followed a date, so that a time of day may come. -/
  | afterDate (context : Context) (done : List Char)
  | item (done : List Toml) (context : Context)
  | afterItem (done : List Toml) (context : Context)
  | memberKey (done : List (Path × Toml)) (context : Context)
  | afterMember (done : List (Path × Toml)) (context : Context)

/-- The statements read so far, last first, and what may come next. -/
structure Reading where
  statements : List Statement
  expected : Expectation

namespace Reading

/-- Expect something else. -/
def expect (reading : Reading) (expected : Expectation) : Reading :=
  { reading with expected }

/-- Complete a statement. -/
def complete (reading : Reading) (statement : Statement) : Reading :=
  { statements := statement :: reading.statements, expected := .lineEnd }

/-- Put a complete value where it belongs. -/
def deliver (reading : Reading) (context : Context) (value : Toml) : Reading :=
  match context.frames with
  | [] => reading.complete (.assign context.target value)
  | .items done :: frames => reading.expect (.afterItem (value :: done) { context with frames })
  | .members done path :: frames =>
    reading.expect (.afterMember ((path, value) :: done) { context with frames })

/-- The part of a key that a token is. -/
def keyPart? : Token → Option String
  | .text value true => some value
  | .word characters =>
    if characters.all fun character =>
        character.isAlphanum || character == '_' || character == '-' then
      some (String.ofList characters)
    else none
  | _ => none

/-- Take the first token of a value. -/
def beginValue? (reading : Reading) (context : Context) : Token → Option Reading
  | .text value _ => some (reading.deliver context (.text value))
  | .word characters => some (reading.expect (.bare context characters))
  | .openBracket =>
    if context.frames.length < maxDepth then some (reading.expect (.item [] context)) else none
  | .openBrace =>
    if context.frames.length < maxDepth then some (reading.expect (.memberKey [] context))
    else none
  | _ => none

/-- Close an array. -/
def closeArray (reading : Reading) (done : List Toml) (context : Context) : Reading :=
  reading.deliver context (.array done.reverse)

/-- Close an inline table. -/
def closeTable? (reading : Reading) (done : List (Path × Toml)) (context : Context) :
    Option Reading := do
  let contents ← Table.ofAssignments? done.reverse
  pure (reading.deliver context (.table (valuesOfMembers contents)))

/-- Expect the value of a key in an inline table. -/
def expectMember (reading : Reading) (done : List (Path × Toml)) (path : Path)
    (context : Context) : Reading :=
  reading.expect (.value { context with frames := .members done path :: context.frames })

/-- End a key with a token. -/
def endKey? (reading : Reading) (path : Path) : KeyRole → Token → Option Reading
  | .header false, .closeBracket => some (reading.complete (.openTable path))
  | .header true, .closeBracket => some (reading.expect (.headerEnd path))
  | .assignment, .equals => some (reading.expect (.value ⟨path, []⟩))
  | .member done context, .equals => some (reading.expectMember done path context)
  | .member done context, .newline => some (reading.expect (.sign done path context))
  | _, _ => none

/-- Whether a value may begin on another line than its key. -/
def mayWrap (context : Context) : Bool :=
  !context.frames.isEmpty

/-- Take a token while no bare value is being read. -/
def settle? (reading : Reading) (token : Token) : Option Reading :=
  match reading.expected, token with
  | .lineStart, .newline | .lineStart, .space | .lineStart, .tab => some reading
  | .lineStart, .openBracket => some (reading.expect .headerStart)
  | .lineStart, token =>
    (keyPart? token).map fun part => reading.expect (.afterPart .assignment [part])
  | .lineEnd, .space | .lineEnd, .tab => some reading
  | .lineEnd, .newline => some (reading.expect .lineStart)
  | .lineEnd, _ => none
  | .headerStart, .openBracket => some (reading.expect (.keyPart (.header true) []))
  | .headerStart, .space | .headerStart, .tab =>
    some (reading.expect (.keyPart (.header false) []))
  | .headerStart, token =>
    (keyPart? token).map fun part => reading.expect (.afterPart (.header false) [part])
  | .keyPart _ _, .space | .keyPart _ _, .tab => some reading
  | .keyPart role done, token =>
    if done.length < maxParts then
      (keyPart? token).map fun part => reading.expect (.afterPart role (part :: done))
    else none
  | .afterPart _ _, .space | .afterPart _ _, .tab => some reading
  | .afterPart role done, .dot => some (reading.expect (.keyPart role done))
  | .afterPart role done, token => reading.endKey? done.reverse role token
  | .headerEnd path, .closeBracket => some (reading.complete (.openElement path))
  | .headerEnd _, _ => none
  | .sign _ _ _, .space | .sign _ _ _, .tab | .sign _ _ _, .newline => some reading
  | .sign done path context, .equals => some (reading.expectMember done path context)
  | .sign _ _ _, _ => none
  | .value _, .space | .value _, .tab => some reading
  | .value context, .newline => if mayWrap context then some reading else none
  | .value context, token => reading.beginValue? context token
  | .bare _ _, _ | .afterDate _ _, _ => none
  | .item _ _, .space | .item _ _, .tab | .item _ _, .newline => some reading
  | .item done context, .closeBracket => some (reading.closeArray done context)
  | .item done context, token =>
    reading.beginValue? { context with frames := .items done :: context.frames } token
  | .afterItem _ _, .space | .afterItem _ _, .tab | .afterItem _ _, .newline => some reading
  | .afterItem done context, .comma => some (reading.expect (.item done context))
  | .afterItem done context, .closeBracket => some (reading.closeArray done context)
  | .afterItem _ _, _ => none
  | .memberKey _ _, .space | .memberKey _ _, .tab | .memberKey _ _, .newline => some reading
  | .memberKey done context, .closeBrace => reading.closeTable? done context
  | .memberKey done context, token =>
    (keyPart? token).map fun part => reading.expect (.afterPart (.member done context) [part])
  | .afterMember _ _, .space | .afterMember _ _, .tab | .afterMember _ _, .newline => some reading
  | .afterMember done context, .comma => some (reading.expect (.memberKey done context))
  | .afterMember done context, .closeBrace => reading.closeTable? done context
  | .afterMember _ _, _ => none

/-- Complete a bare value. -/
def finishBare? (reading : Reading) (context : Context) (done : List Char) : Option Reading :=
  (Scalar.read? done).map (reading.deliver context)

/-- Take a token. Words and dots continue a bare value, and a blank does so between a date and a
time of day. -/
def step? (reading : Reading) (token : Token) : Option Reading :=
  match reading.expected, token with
  | .bare context done, .word characters =>
    some (reading.expect (.bare context (done ++ characters)))
  | .bare context done, .dot => some (reading.expect (.bare context (done ++ ['.'])))
  | .bare context done, .space =>
    if Scalar.isDate done then some (reading.expect (.afterDate context done))
    else reading.finishBare? context done
  | .bare context done, token => do
    let finished ← reading.finishBare? context done
    finished.settle? token
  | .afterDate context done, .word characters =>
    some (reading.expect (.bare context (done ++ ' ' :: characters)))
  | .afterDate context done, token => do
    let finished ← reading.finishBare? context done
    finished.settle? token
  | _, token => reading.settle? token

/-- The statements of a document that ends here. -/
def statements? (reading : Reading) : Option (List Statement) := do
  let finished ←
    match reading.expected with
    | .bare context done | .afterDate context done => reading.finishBare? context done
    | _ => some reading
  match finished.expected with
  | .lineStart | .lineEnd => some finished.statements.reverse
  | _ => none

end Reading

/-- The statements of a token sequence. -/
def statementsOfTokens? (tokens : List Token) : Option (List Statement) := do
  let reading ← tokens.foldlM Reading.step? ⟨[], .lineStart⟩
  reading.statements?

/-- Drop a byte order mark. -/
def dropMark : List Char → List Char
  | '\uFEFF' :: rest => rest
  | characters => characters

/-- The members of a document's table; none if the text is not TOML. -/
def parse? (document : String) : Option (List (String × Toml)) := do
  let tokens ← Token.scan? (dropMark document.toList)
  let statements ← statementsOfTokens? tokens
  let contents ← Table.ofStatements? statements
  pure (valuesOfMembers contents)

end Toml

end ConfigAudit
