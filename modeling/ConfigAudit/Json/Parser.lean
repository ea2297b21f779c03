import ConfigAudit.Json.Token

/-!
# Reading a JSON document

The tokens of a document drive a machine whose state is the stack of the arrays and objects still
open. `Json.parse?` is the value that stands alone in the document; a value nested deeper than
`maxDepth` is refused.
-/

namespace ConfigAudit

namespace Json

/-- The deepest nesting of arrays and objects that is read. -/
def maxDepth : Nat := 127

/-- An open array with its items so far, last first, or an open object with its members so far and
the key whose value comes next. -/
inductive Frame where
  | items (done : List Json)
  | members (done : List (String × Json)) (key : String)

/-- What may come next. Each state but the last carries the containers open around it, innermost
first. -/
inductive Assembly where
  /-- A value. -/
  | beforeValue (frames : List Frame)
  /-- The first item of an array, or its end. -/
  | beforeFirstItem (frames : List Frame)
  /-- A comma or the end of an array. -/
  | afterItem (done : List Json) (frames : List Frame)
  /-- The first key of an object, or its end. -/
  | beforeFirstKey (frames : List Frame)
  /-- A key of an object. -/
  | beforeKey (done : List (String × Json)) (frames : List Frame)
  /-- The colon after a key. -/
  | afterKey (done : List (String × Json)) (key : String) (frames : List Frame)
  /-- A comma or the end of an object. -/
  | afterMember (done : List (String × Json)) (frames : List Frame)
  /-- Nothing: the value of the document is complete. -/
  | complete (value : Json)

namespace Assembly

/-- Put a complete value where it belongs. -/
def deliver (value : Json) : List Frame → Assembly
  | [] => .complete value
  | .items done :: frames => .afterItem (value :: done) frames
  | .members done key :: frames => .afterMember (Members.insert key value done) frames

/-- Take the first token of a value. -/
def beginValue? (frames : List Frame) : Token → Option Assembly
  | .openArray => if frames.length < maxDepth then some (.beforeFirstItem frames) else none
  | .openObject => if frames.length < maxDepth then some (.beforeFirstKey frames) else none
  | .text value => some (deliver (.text value) frames)
  | .number value => some (deliver (.number value) frames)
  | .bool value => some (deliver (.bool value) frames)
  | .null => some (deliver .null frames)
  | .closeArray | .closeObject | .comma | .colon => none

/-- Take one token. -/
def step? : Assembly → Token → Option Assembly
  | .beforeValue frames, token => beginValue? frames token
  | .beforeFirstItem frames, .closeArray => some (deliver (.array []) frames)
  | .beforeFirstItem frames, token => beginValue? (.items [] :: frames) token
  | .afterItem done frames, .comma => some (.beforeValue (.items done :: frames))
  | .afterItem done frames, .closeArray => some (deliver (.array done.reverse) frames)
  | .beforeFirstKey frames, .closeObject => some (deliver (.object []) frames)
  | .beforeFirstKey frames, .text key => some (.afterKey [] key frames)
  | .beforeKey done frames, .text key => some (.afterKey done key frames)
  | .afterKey done key frames, .colon => some (.beforeValue (.members done key :: frames))
  | .afterMember done frames, .comma => some (.beforeKey done frames)
  | .afterMember done frames, .closeObject => some (deliver (.object done) frames)
  | _, _ => none

/-- The value of a completed document. -/
def result? : Assembly → Option Json
  | .complete value => some value
  | _ => none

end Assembly

/-- The value of a token sequence. -/
def ofTokens? (tokens : List Token) : Option Json := do
  let assembly ← tokens.foldlM Assembly.step? (.beforeValue [])
  assembly.result?

/-- The value of a document; none if the text is not strict JSON. -/
def parse? (document : String) : Option Json := do
  let tokens ← Token.scan? document.toList
  ofTokens? tokens

end Json

end ConfigAudit
