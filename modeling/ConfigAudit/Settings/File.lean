import ConfigAudit.Decoding
import ConfigAudit.Number.Width
import ConfigAudit.Text
import ConfigAudit.Toml.Parser

/-!
# The settings file

What a settings file says, before anything is checked or merged. Keys that are not known are passed
over, so that a file can be written for a later version; only a number that no reader could hold is
refused wherever it stands.
-/

namespace ConfigAudit

/-- What a settings file says of one rule. -/
structure RuleSettings where
  enabled : Option Bool := none
  severity : Option String := none
  allow : List String := []
deriving DecidableEq, Repr, Inhabited

/-- What a settings file says. -/
structure SettingsFile where
  schema : Option String := none
  profile : Option String := none
  failOn : Option String := none
  parallelism : Option Nat := none
  ruleBudget : Option Nat := none
  /-- Rule identifiers in ascending order, each with what is said of it. -/
  rules : List (String × RuleSettings) := []
deriving DecidableEq, Repr, Inhabited

/-- The reason why a text is no settings file. -/
inductive SettingsFileError where
  /-- The text is not TOML. -/
  | malformed
  | mismatch (error : DecodeError)
deriving DecidableEq, Repr

namespace SettingsFileError

/-- What does not fit in the text, where that is known without its reader. -/
def message? : SettingsFileError → Option String
  | malformed => none
  | mismatch error => error.message?

end SettingsFileError

namespace Toml

/-- What is found where an integer stands. -/
def foundInteger (value : Int) : Except DecodeError Found :=
  if Width.fitsSigned 64 value || Width.fitsUnsigned 64 value then .ok (.integer value)
  else if Width.fitsSigned 128 value || Width.fitsUnsigned 128 value then .ok (.wideInteger value)
  else .error .integerOverflow

/-- What is found where a value stands. A number that is too large is refused as such. -/
def found : Toml → Except DecodeError Found
  | .text value => .ok (.text value)
  | .integer value => foundInteger value
  | .float (.finite value) => .ok (.fraction value)
  | .float (.infinite negative) => .ok (.infinite negative)
  | .float .notANumber => .ok .notANumber
  | .float .tooLarge => .error .fractionOverflow
  | .bool value => .ok (.boolean value)
  | .array _ => .ok .sequence
  | .moment _ | .table _ => .ok .mapping

mutual

/-- Pass over a value. The first number in it that is too large is refused even so. -/
def pass : Toml → Except DecodeError Unit
  | .array items => passItems items
  | .table members => passMembers members
  | value => value.found.map fun _ => ()

/-- Pass over the items of an array. -/
def passItems : List Toml → Except DecodeError Unit
  | [] => .ok ()
  | item :: rest => do
    pass item
    passItems rest

/-- Pass over the members of a table. -/
def passMembers : List (String × Toml) → Except DecodeError Unit
  | [] => .ok ()
  | (_, value) :: rest => do
    pass value
    passMembers rest

end

/-- Refuse a value of the wrong type. -/
def refuse {Result : Type} (value : Toml) (expected : Expected) : Except DecodeError Result := do
  let found ← value.found
  throw (.wrongType found expected)

/-- Read a text. -/
def decodeText : Toml → Except DecodeError String
  | .text value => .ok value
  | value => value.refuse .text

/-- Read a truth value. -/
def decodeBool : Toml → Except DecodeError Bool
  | .bool value => .ok value
  | value => value.refuse .boolean

/-- Read a natural number of 64 bits. -/
def decodeNatural (expected : Expected) : Toml → Except DecodeError Nat
  | .integer value =>
    if Width.fitsUnsigned 64 value then .ok value.toNat
    else if Width.fitsSigned 64 value then .error (.wrongValue (.integer value) expected)
    else Toml.refuse (.integer value) expected
  | value => value.refuse expected

/-- Read an array of texts. -/
def decodeTexts : Toml → Except DecodeError (List String)
  | .array items => items.mapM decodeText
  | value => value.refuse .sequence

/-- Read the item of an array at a position, if there is one. -/
def decodeItem {Result : Type} (position : Nat) (decode : Toml → Except DecodeError Result)
    (items : List Toml) : Except DecodeError (Option Result) :=
  match items[position]? with
  | some value => some <$> decode value
  | none => .ok none

end Toml

namespace RuleSettings

/-- Add what a member of a table says of a rule. -/
def readMember (settings : RuleSettings) (key : String) (value : Toml) :
    Except DecodeError RuleSettings :=
  match key with
  | "allow" => return { settings with allow := ← Toml.decodeTexts value }
  | "enabled" => return { settings with enabled := some (← Toml.decodeBool value) }
  | "severity" => return { settings with severity := some (← Toml.decodeText value) }
  | _ => value.pass.map fun _ => settings

/-- Read what is said of a rule: a table, looked through in the order of its keys, or an array with
the fields in their order. -/
def ofToml : Toml → Except DecodeError RuleSettings
  | .table members =>
    members.foldlM (fun settings (key, value) => settings.readMember key value) {}
  | .array items => do
    let enabled ← Toml.decodeItem 0 Toml.decodeBool items
    let severity ← Toml.decodeItem 1 Toml.decodeText items
    let allow ← Toml.decodeItem 2 Toml.decodeTexts items
    pure { enabled, severity, allow := allow.getD [] }
  | value => value.refuse (.record "RuleConfig")

/-- Read what is said of each rule. -/
def tableOfToml : Toml → Except DecodeError (List (String × RuleSettings))
  | .table members => members.mapM fun (id, value) => return (id, ← ofToml value)
  | value => value.refuse .mapping

end RuleSettings

namespace SettingsFile

/-- Add what a member of the table of a file says. -/
def readMember (file : SettingsFile) (key : String) (value : Toml) :
    Except DecodeError SettingsFile :=
  match key with
  | "fail_on" => return { file with failOn := some (← Toml.decodeText value) }
  | "parallelism" =>
    return { file with parallelism := some (← Toml.decodeNatural .machineWord value) }
  | "profile" => return { file with profile := some (← Toml.decodeText value) }
  | "rule_budget_ms" => return { file with ruleBudget := some (← Toml.decodeNatural .word64 value) }
  | "rules" => return { file with rules := ← RuleSettings.tableOfToml value }
  | "schema" => return { file with schema := some (← Toml.decodeText value) }
  | _ => value.pass.map fun _ => file

/-- Read the table of a file, in the order of its keys. -/
def ofMembers (members : List (String × Toml)) : Except DecodeError SettingsFile :=
  members.foldlM (fun file (key, value) => file.readMember key value) {}

/-- What a text says. -/
def parse (text : String) : Except SettingsFileError SettingsFile :=
  match Toml.parse? text with
  | none => .error .malformed
  | some members => (ofMembers members).mapError .mismatch

/-- What the text of a file says. A blank text says nothing. -/
def read (text : String) : Except SettingsFileError SettingsFile :=
  if Text.isBlankText text then .ok {} else parse text

end SettingsFile

end ConfigAudit
