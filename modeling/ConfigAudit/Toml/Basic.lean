import ConfigAudit.Members
import ConfigAudit.Number.Binary64

/-!
# TOML values

The value that a TOML document denotes. Numbers keep whatever the document writes: an integer has
any size, and a floating-point number may lie beyond the finite range. Which of them can be taken
is for the reader of the values to say.
-/

namespace ConfigAudit

/-- A floating-point number of a TOML document. -/
inductive TomlFloat where
  | finite (value : Binary64)
  | infinite (negative : Bool)
  | notANumber
  /-- A numeral beyond the finite range. -/
  | tooLarge
deriving DecidableEq, Repr, Inhabited

/-- The value of a TOML document, or of a part of it. -/
inductive Toml where
  | text (value : String)
  | integer (value : Int)
  | float (value : TomlFloat)
  | bool (value : Bool)
  /-- A date, a time of day or both, as it is written. -/
  | moment (written : String)
  | array (items : List Toml)
  /-- A table, its keys ascending. -/
  | table (members : List (String × Toml))
deriving Repr, Inhabited

end ConfigAudit
