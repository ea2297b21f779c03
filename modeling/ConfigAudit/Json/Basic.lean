import ConfigAudit.Members
import ConfigAudit.Number.Binary64

/-!
# JSON values

The value that a JSON document denotes. Members of an object are kept in key order, the last of
equal keys counting, so two documents that differ only in the order of members have one value.
-/

namespace ConfigAudit

/-- A number of a JSON document: a whole number written without fraction and exponent, from
`-2 ^ 63` to `2 ^ 64 - 1` and other than `-0`, or a binary floating-point number. -/
inductive JsonNumber where
  | whole (value : Int)
  | fraction (value : Binary64)
deriving DecidableEq, Repr, Inhabited

/-- The value of a JSON document. -/
inductive Json where
  | null
  | bool (value : Bool)
  | number (value : JsonNumber)
  | text (value : String)
  | array (items : List Json)
  | object (members : List (String × Json))
deriving Repr, Inhabited

namespace Json

/-- Whether a value is an array. -/
def isArray : Json → Bool
  | .array _ => true
  | _ => false

/-- The member of an object with a name; none in any other value. -/
def member? (name : String) : Json → Option Json
  | .object members => members.lookup name
  | _ => none

/-- The text of a text value. -/
def text? : Json → Option String
  | .text value => some value
  | _ => none

mutual

/-- Every object of the value has its members in strict key order. -/
def Canonical : Json → Prop
  | .null | .bool _ | .number _ | .text _ => True
  | .array items => CanonicalItems items
  | .object members => Members.Sorted members ∧ CanonicalMembers members

/-- Every item of an array is canonical. -/
def CanonicalItems : List Json → Prop
  | [] => True
  | item :: rest => Canonical item ∧ CanonicalItems rest

/-- Every value of an object is canonical. -/
def CanonicalMembers : List (String × Json) → Prop
  | [] => True
  | (_, value) :: rest => Canonical value ∧ CanonicalMembers rest

end

end Json

end ConfigAudit
