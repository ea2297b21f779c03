import ConfigAudit.Members
import ConfigAudit.Number.Binary64
import ConfigAudit.Number.Numeral

/-!
# Attribute values

What a resource declares is a set of attributes, each a sequence of values: empty means unset, one
entry is the common case, more entries mean that the attribute was declared repeatedly. A nested
block is a value with attributes of its own, which follow the same convention; a mapping with a
member that is no sequence is a plain map, such as a set of tags.

`Attributes` is read through `get`, `first?`, `text?`, `blocks` and `blocks?`. A missing attribute
reads as an empty sequence.
-/

namespace ConfigAudit

/-- A value inside an attribute's sequence. -/
inductive Value where
  | null
  | bool (value : Bool)
  | int (value : Int)
  | float (value : Binary64)
  | text (value : String)
  | list (items : List Value)
  /-- A plain map, whose values are not wrapped in sequences. -/
  | map (members : List (String × Value))
  /-- A nested block. -/
  | block (attributes : List (String × List Value))
deriving Repr, Inhabited

/-- Attribute names in ascending order, each with its sequence of values. -/
abbrev Attributes := List (String × List Value)

/-- A complaint that a rule makes about a resource it cannot judge. -/
inductive RuleFault where
  /-- The entry at a position, counted from one, breaks the convention for nested blocks. -/
  | strayEntry (name : String) (position : Nat)
  /-- A complaint in a rule's own words. -/
  | reported (message : String)
deriving DecidableEq, Repr

namespace RuleFault

/-- The wording of a complaint. -/
def message : RuleFault → String
  | strayEntry name position =>
    name ++ " entry #" ++ Numeral.text position ++ " is not a nested block"
  | reported message => message

end RuleFault

namespace Value

/-- The text of a text value. -/
def string? : Value → Option String
  | .text value => some value
  | _ => none

/-- The truth value of a Boolean value. -/
def bool? : Value → Option Bool
  | .bool value => some value
  | _ => none

/-- The number of an integer value. -/
def int? : Value → Option Int
  | .int value => some value
  | _ => none

/-- The items of a list. -/
def list? : Value → Option (List Value)
  | .list items => some items
  | _ => none

/-- The attributes of a nested block. -/
def block? : Value → Option Attributes
  | .block attributes => some attributes
  | _ => none

/-- The text of a scalar, so that a number and the text of that number read alike. -/
def scalarText? : Value → Option String
  | .text value => some value
  | .int value => some (Numeral.signedText value)
  | .float value => some value.text
  | .bool true => some "true"
  | .bool false => some "false"
  | .null | .list _ | .map _ | .block _ => none

mutual

/-- The texts of the scalars in a value, at any depth of nested lists, in order. -/
def leafTexts : Value → List String
  | .list items => leafTextsOfAll items
  | other => other.scalarText?.toList

/-- The texts of the scalars in a sequence of values. -/
def leafTextsOfAll : List Value → List String
  | [] => []
  | item :: rest => leafTexts item ++ leafTextsOfAll rest

end

/-- A short form of a value for diagnostics. -/
def describe : Value → String
  | .null => "null"
  | .list _ => "a list"
  | .map _ => "a map"
  | .block _ => "a block"
  | scalar => "'" ++ scalar.scalarText?.getD "" ++ "'"

end Value

namespace Attributes

/-- The sequence of an attribute, empty if it is missing. -/
def get (attributes : Attributes) (name : String) : List Value :=
  (attributes.lookup name).getD []

/-- The first entry of an attribute. -/
def first? (attributes : Attributes) (name : String) : Option Value :=
  (attributes.get name).head?

/-- The text of the first entry of an attribute, if that is a scalar. -/
def text? (attributes : Attributes) (name : String) : Option String :=
  (attributes.first? name).bind Value.scalarText?

/-- Whether an attribute has an entry. -/
def contains (attributes : Attributes) (name : String) : Bool :=
  !(attributes.get name).isEmpty

/-- The nested blocks among the entries of an attribute, in order. -/
def blocks (attributes : Attributes) (name : String) : List Attributes :=
  (attributes.get name).filterMap Value.block?

/-- The nested blocks of entries whose first stands at a position, each of which has to be one. -/
def blocksFrom (name : String) (position : Nat) : List Value → Except RuleFault (List Attributes)
  | [] => .ok []
  | entry :: rest =>
    match entry.block? with
    | none => .error (.strayEntry name position)
    | some block => (blocksFrom name (position + 1) rest).map (block :: ·)

/-- The nested blocks of an attribute, in order; a fault at the first entry that is none. -/
def blocks? (attributes : Attributes) (name : String) : Except RuleFault (List Attributes) :=
  blocksFrom name 1 (attributes.get name)

/-- The texts of the scalars of an attribute, at any depth of nested lists, in order. -/
def leafTexts (attributes : Attributes) (name : String) : List String :=
  Value.leafTextsOfAll (attributes.get name)

end Attributes

end ConfigAudit
