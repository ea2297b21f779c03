import ConfigAudit.CauseChain
import ConfigAudit.Settings.Resolve

/-!
# Loading settings

From the text of a settings file and the command line to the settings in effect.
-/

namespace ConfigAudit

namespace SettingsError

/-- The causes, the nearest one first. -/
def causes : SettingsError → List String
  | unknownSeverity ruleId name =>
    ["invalid severity for " ++ ruleId,
      "unknown severity: " ++ name ++ " (expected info|warning|error)"]
  | malformedPattern ruleId error =>
    ["invalid allow glob for " ++ ruleId ++ ": " ++ error.pattern, error.message]
  | unknownProfile name => ["unknown profile: " ++ name ++ " (expected strict|warn)"]
  | noWorkers => ["parallelism must be at least 1"]
  | noBudget => ["rule_budget_ms must be at least 1"]
  | unknownFailOn name => ["unknown fail_on: " ++ name ++ " (expected error|warning)"]

/-- The wording for a setting that cannot take effect, on one line. -/
def message (error : SettingsError) : String :=
  String.intercalate ": " error.causes

/-- The chain of causes. -/
def chain (error : SettingsError) : CauseChain where
  headline := "resolve config"
  causes := error.causes

end SettingsError

/-- The reason why settings cannot be loaded. -/
inductive SettingsFault where
  | unreadable (error : SettingsFileError)
  | unresolvable (error : SettingsError)
deriving DecidableEq, Repr

namespace SettingsFault

/-- The chain of causes, up to what the reader of the file says: `chainFor` adds that. -/
def chain : SettingsFault → CauseChain
  | unreadable _ => ⟨"parse config", []⟩
  | unresolvable error => error.chain

/-- The text of the settings file, if its reader refuses it. -/
def refused? (text : String) : SettingsFault → Option RefusedText
  | unreadable error => some (.settings text error.message?)
  | unresolvable _ => none

/-- The whole chain of causes for the text of a file. What the reader of the file says comes last. -/
def chainFor (wording : Wording) (text : String) (fault : SettingsFault) : CauseChain :=
  fault.chain.endingIn wording (fault.refused? text)

end SettingsFault

namespace Settings

/-- The settings in effect under the text of a settings file and the command line. -/
def load (text : String) (overrides : Overrides) : Except SettingsFault EffectiveSettings := do
  let file ← (SettingsFile.read text).mapError SettingsFault.unreadable
  (resolve file overrides).mapError SettingsFault.unresolvable

end Settings

end ConfigAudit
