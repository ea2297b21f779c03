import ConfigAudit.Rule.Catalog
import ConfigAudit.Settings.Load

/-!
# Listing the catalog

The built-in rules with the severity and the enabling that settings give them.
-/

namespace ConfigAudit

/-- A rule of the catalog under given settings. -/
structure RuleListing where
  id : String
  name : String
  category : Category
  severity : Severity
  kinds : List String
  absence : AbsencePolicy
  enabled : Bool
deriving DecidableEq, Repr, Inhabited

namespace ResourceKinds

/-- The kinds in ascending order; an asterisk stands for all. -/
def toList : ResourceKinds → List String
  | universal => ["*"]
  | only kinds => kinds.keys

end ResourceKinds

namespace RuleListing

/-- The listing of a rule. -/
def ofRule (settings : EffectiveSettings) (rule : Rule) : RuleListing where
  id := rule.info.id
  name := rule.info.name
  category := rule.info.category
  severity := (settings.severity? rule.info.id).getD rule.info.severity
  kinds := rule.info.kinds.toList
  absence := rule.info.absence
  enabled := settings.isEnabled rule.info.id

/-- The listings of the built-in rules. -/
def catalog (settings : EffectiveSettings) : List RuleListing :=
  Catalog.builtin.map (ofRule settings)

/-- The listings under the text of a settings file and the command line. -/
def load (settingsText : String) (overrides : Overrides) :
    Except SettingsFault (List RuleListing) := do
  let settings ← Settings.load settingsText overrides
  pure (catalog settings)

/-- The two lines of a listing. -/
def text (listing : RuleListing) : String :=
  listing.id ++ "  " ++ listing.name ++ "  [" ++ listing.category.name ++ "] severity=" ++
    listing.severity.name ++ " absence=" ++ listing.absence.name ++
    (if listing.enabled then "" else " (disabled)") ++ "\n" ++
    "    kinds: " ++ String.intercalate ", " listing.kinds ++ "\n"

/-- The text of listings. -/
def render (listings : List RuleListing) : String :=
  String.join (listings.map text)

end RuleListing

end ConfigAudit
