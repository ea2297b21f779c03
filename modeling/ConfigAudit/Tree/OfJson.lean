import ConfigAudit.Json.Basic
import ConfigAudit.Number.Width
import ConfigAudit.Tree.Basic

/-!
# Reading a configuration tree from JSON

A tree is written as an object of kinds, each an array of instances, each an object of attributes,
each an array of entries. `Tree.ofJson` finds the first violation of this shape in key order.
`Value.read` reads an entry and, inside a nested block, looks for the same violations of the shape;
`Value.ofJson` is the value of an entry without regard to them.
-/

namespace ConfigAudit

/-- The form of a JSON value, as diagnostics name it. -/
inductive JsonForm where
  | null
  | boolean
  | number
  | string
  | sequence
  | mapping
deriving DecidableEq, Repr

namespace JsonForm

/-- The wording for a form. -/
def phrase : JsonForm → String
  | null => "null"
  | boolean => "a boolean"
  | number => "a number"
  | string => "a string"
  | sequence => "a sequence"
  | mapping => "a mapping"

end JsonForm

namespace Json

/-- The form of a value. -/
def form : Json → JsonForm
  | .null => .null
  | .bool _ => .boolean
  | .number _ => .number
  | .text _ => .string
  | .array _ => .sequence
  | .object _ => .mapping

end Json

/-- A violation of the shape of a configuration tree, with the form found in its place. -/
inductive TreeError where
  /-- The document is no object of kinds. -/
  | rootForm (found : JsonForm)
  /-- A kind has no array of instances. -/
  | kindForm (kind : String) (found : JsonForm)
  /-- An instance is no object. -/
  | instanceForm (kind : String) (index : Nat) (found : JsonForm)
  /-- An attribute has no array of entries. -/
  | attributeForm (kind : String) (index : Nat) (name : String) (found : JsonForm)
  /-- An attribute of a nested block has no array of entries. -/
  | nestedForm (path : String) (found : JsonForm)
deriving DecidableEq, Repr

namespace TreeError

/-- The path of the offending value. -/
def path : TreeError → String
  | rootForm _ => ""
  | kindForm kind _ => "/" ++ kind
  | instanceForm kind index _ => "/" ++ kind ++ "/" ++ Numeral.text index
  | attributeForm kind index name _ => "/" ++ kind ++ "/" ++ Numeral.text index ++ "/" ++ name
  | nestedForm path _ => path

/-- What was expected, and what was found. -/
def reason : TreeError → String
  | rootForm found => "expected an object of resource kinds, found " ++ found.phrase
  | kindForm _ found =>
    "resource kind must map to a sequence of instances, found " ++ found.phrase
  | instanceForm _ _ found => "resource instance must be a mapping, found " ++ found.phrase
  | attributeForm _ _ _ found | nestedForm _ found =>
    "attribute must be a sequence, found " ++ found.phrase

/-- The wording of a violation. -/
def message (error : TreeError) : String :=
  "malformed configuration tree at '" ++ error.path ++ "': " ++ error.reason

end TreeError

namespace Value

/-- An integer of 64 bits stays one; every other number is a floating-point number. -/
def ofNumber : JsonNumber → Value
  | .fraction value => .float value
  | .whole value =>
    if Width.fitsSigned 64 value then .int value
    else .float ((Binary64.ofNat? (value < 0) value.natAbs).getD (Binary64.zero (value < 0)))

mutual

/-- The value of an entry. An object whose members are all arrays is a nested block, any other
object a plain map. -/
def ofJson : Json → Value
  | .null => .null
  | .bool value => .bool value
  | .number value => ofNumber value
  | .text value => .text value
  | .array items => .list (ofItems items)
  | .object members =>
    if members.all (fun member => member.2.isArray) then .block (ofAttributes members)
    else .map (ofMembers members)

/-- The values of the items of an array. -/
def ofItems : List Json → List Value
  | [] => []
  | item :: rest => ofJson item :: ofItems rest

/-- The members of a plain map. -/
def ofMembers : List (String × Json) → List (String × Value)
  | [] => []
  | (key, value) :: rest => (key, ofJson value) :: ofMembers rest

/-- The attributes among the members of an object: those that are arrays. -/
def ofAttributes : List (String × Json) → List (String × List Value)
  | [] => []
  | (name, .array entries) :: rest => (name, ofItems entries) :: ofAttributes rest
  | (_, _) :: rest => ofAttributes rest

end

mutual

/-- Read the entry at a path. -/
def read (path : String) : Json → Except TreeError Value
  | .null => .ok .null
  | .bool value => .ok (.bool value)
  | .number value => .ok (ofNumber value)
  | .text value => .ok (.text value)
  | .array items => do
    let values ← readItems path 0 items
    return .list values
  | .object members =>
    if members.all (fun member => member.2.isArray) then do
      let attributes ← readAttributes path members
      return .block attributes
    else do
      let values ← readMembers path members
      return .map values

/-- Read the items of the array at a path from a position on. -/
def readItems (path : String) (position : Nat) : List Json → Except TreeError (List Value)
  | [] => .ok []
  | item :: rest => do
    let value ← read (path ++ "/" ++ Numeral.text position) item
    let values ← readItems path (position + 1) rest
    return value :: values

/-- Read the members of the plain map at a path. -/
def readMembers (path : String) : List (String × Json) → Except TreeError (List (String × Value))
  | [] => .ok []
  | (key, member) :: rest => do
    let value ← read (path ++ "/" ++ key) member
    let values ← readMembers path rest
    return (key, value) :: values

/-- Read the attributes of the nested block at a path. -/
def readAttributes (path : String) :
    List (String × Json) → Except TreeError (List (String × List Value))
  | [] => .ok []
  | (name, .array entries) :: rest => do
    let values ← readItems (path ++ "/" ++ name) 0 entries
    let attributes ← readAttributes path rest
    return (name, values) :: attributes
  | (name, value) :: _ => .error (.nestedForm (path ++ "/" ++ name) value.form)

end

end Value

namespace Tree

/-- One attribute of an instance. -/
def attributeOfJson (kind : String) (index : Nat) :
    String × Json → Except TreeError (String × List Value)
  | (name, .array entries) => do
    let path := "/" ++ kind ++ "/" ++ Numeral.text index ++ "/" ++ name
    let values ← Value.readItems path 0 entries
    return (name, values)
  | (name, value) => .error (.attributeForm kind index name value.form)

/-- The attributes of an instance. -/
def instanceOfJson (kind : String) : Json × Nat → Except TreeError Attributes
  | (.object members, index) => members.mapM (attributeOfJson kind index)
  | (value, index) => .error (.instanceForm kind index value.form)

/-- The instances of a kind. -/
def instancesOfJson (kind : String) : Json → Except TreeError (List Attributes)
  | .array items => items.zipIdx.mapM (instanceOfJson kind)
  | value => .error (.kindForm kind value.form)

/-- Declare the kinds of an object one after the other. -/
def declareAll (tree : Tree) : List (String × Json) → Except TreeError Tree
  | [] => .ok tree
  | (kind, value) :: rest => do
    let instances ← instancesOfJson kind value
    declareAll (tree.declare kind instances) rest

/-- The tree of a JSON value, or its first violation of the shape of a tree. -/
def ofJson : Json → Except TreeError Tree
  | .object members => declareAll empty members
  | value => .error (.rootForm value.form)

end Tree

end ConfigAudit
