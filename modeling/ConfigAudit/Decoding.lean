import ConfigAudit.Number.Binary64
import ConfigAudit.Number.Numeral
import ConfigAudit.Number.Width
import ConfigAudit.Text.Quoted

/-!
# Mismatches between a document and its type

Documents without a type of their own, in JSON or TOML, are read into typed records. A
`DecodeError` says what stands in the way, and `DecodeError.message?` words it.
-/

namespace ConfigAudit

/-- What was found in a document. -/
inductive Found where
  | null
  | boolean (value : Bool)
  | integer (value : Int)
  /-- An integer beyond 64 bits. -/
  | wideInteger (value : Int)
  /-- A fraction that is shown positionally. -/
  | fraction (value : Binary64)
  /-- A fraction that is shown compactly. -/
  | compactFraction (value : Binary64)
  | infinite (negative : Bool)
  | notANumber
  | text (value : String)
  | sequence
  | mapping
deriving DecidableEq, Repr, Inhabited

namespace Found

/-- A value between backticks. -/
def between (words value : String) : String :=
  words ++ " `" ++ value ++ "`"

/-- The wording for what was found. -/
def phrase : Found → String
  | null => "null"
  | boolean value => between "boolean" (if value then "true" else "false")
  | integer value => between "integer" (Numeral.signedText value)
  | wideInteger value =>
    between "integer" (Numeral.signedText value) ++
      (if Width.fitsSigned 128 value then " as i128" else " as u128")
  | fraction value => between "floating point" value.fractionText
  | compactFraction value => between "floating point" value.compactText
  | infinite negative => between "floating point" (if negative then "-inf" else "inf")
  | notANumber => between "floating point" "NaN"
  | text value => "string " ++ Text.quoted value
  | sequence => "sequence"
  | mapping => "map"

end Found

/-- What a typed record asks for. -/
inductive Expected where
  | text
  | boolean
  | sequence
  | mapping
  /-- A natural number of 32 bits. -/
  | word32
  /-- A natural number of 64 bits. -/
  | word64
  /-- A natural number that counts things in memory, of 64 bits too. -/
  | machineWord
  /-- A record of a type. -/
  | record (name : String)
  /-- A record of a type written as an array of so many fields. -/
  | recordOfSize (name : String) (size : Nat)
  /-- The name of an alternative, or an object of it. -/
  | alternative
  /-- An object with one member. -/
  | singleMember
  /-- Nothing beside the name of an alternative. -/
  | unit
  | timestamp
  /-- No more items of an array than were read. -/
  | fewerItems
deriving DecidableEq, Repr, Inhabited

namespace Expected

/-- The wording for what is asked for. -/
def phrase : Expected → String
  | text => "a string"
  | boolean => "a boolean"
  | sequence => "a sequence"
  | mapping => "a map"
  | word32 => "u32"
  | word64 => "u64"
  | machineWord => "usize"
  | record name => "struct " ++ name
  | recordOfSize name size =>
    "struct " ++ name ++ " with " ++ Numeral.text size ++
      (if size = 1 then " element" else " elements")
  | alternative => "string or map"
  | singleMember => "map with a single key"
  | unit => "unit"
  | timestamp => "an RFC3339-formatted `OffsetDateTime`"
  | fewerItems => "fewer elements in array"

end Expected

/-- The first mismatch between a document and the type into which it is read. -/
inductive DecodeError where
  | wrongType (found : Found) (expected : Expected)
  | wrongValue (found : Found) (expected : Expected)
  | wrongLength (length : Nat) (expected : Expected)
  | missingField (name : String)
  | unknownAlternative (name : String) (known : List String)
  /-- An integer of a size that no type has. -/
  | integerOverflow
  /-- A floating-point numeral beyond the finite range. -/
  | fractionOverflow
  /-- A text that is no timestamp. -/
  | malformedTimestamp (text : String)
deriving DecidableEq, Repr

namespace DecodeError

/-- A name between backticks. -/
def ticked (name : String) : String :=
  "`" ++ name ++ "`"

/-- The wording for a choice of names. -/
def oneOf : List String → String
  | [name] => ticked name
  | [first, second] => ticked first ++ " or " ++ ticked second
  | names => "one of " ++ String.intercalate ", " (names.map ticked)

/-- The wording of a mismatch, unless it is left to the reader of a number or a timestamp. -/
def message? : DecodeError → Option String
  | wrongType found expected =>
    some ("invalid type: " ++ found.phrase ++ ", expected " ++ expected.phrase)
  | wrongValue found expected =>
    some ("invalid value: " ++ found.phrase ++ ", expected " ++ expected.phrase)
  | wrongLength length expected =>
    some ("invalid length " ++ Numeral.text length ++ ", expected " ++ expected.phrase)
  | missingField name => some ("missing field " ++ ticked name)
  | unknownAlternative name known =>
    some ("unknown variant " ++ ticked name ++ ", expected " ++ oneOf known)
  | integerOverflow | fractionOverflow | malformedTimestamp _ => none

end DecodeError

end ConfigAudit
