import ConfigAudit.Rule.Basic

/-!
# Storage accounts

Two rules on storage accounts. Each looks at the first entry of one attribute and demands one
value, which has to be declared, since the default of the platform is the insecure one.
-/

namespace ConfigAudit

namespace StorageAccount

/-- The kind of resource to which the rules apply. -/
def kind : String := "azurerm_storage_account"

/-- Judge the first entry of an attribute by a required value and its wording. -/
def judgeFirst (name : String) (isRequired : Value → Bool) (required : String)
    (account : Attributes) : Reply :=
  .concluded <|
    match account.first? name with
    | none => .absent .defaultFail name
    | some value =>
      if isRequired value then .passed
      else .failed (name ++ " is " ++ value.describe ++ "; expected " ++ required)

/-- The attribute that opens an account to public networks. -/
def publicAccessAttribute : String := "public_network_access_enabled"

/-- Whether a value is the truth value false. -/
def isFalse (value : Value) : Bool :=
  value.bool? == some false

/-- The rule that an account is closed to public networks, for the given kinds of resource. -/
def publicAccessRuleFor (kinds : List String) : Rule where
  info :=
    { id := "GR_AZURE_002"
      name := "Storage must disable public network access"
      category := .networking
      severity := .error
      kinds := .ofList kinds
      absence := .defaultFail }
  evaluate := judgeFirst publicAccessAttribute isFalse "false"

/-- The rule for storage accounts. -/
def publicAccessRule : Rule := publicAccessRuleFor [kind]

/-- The attribute that sets the least version of the transport security protocol. -/
def transportVersionAttribute : String := "min_tls_version"

/-- The version that is demanded. -/
def requiredVersion : String := "TLS1_2"

/-- Whether a value is the text of the version that is demanded. -/
def isRequiredVersion (value : Value) : Bool :=
  value.string? == some requiredVersion

/-- The rule that an account refuses older versions of the transport security protocol, for the
given kinds of resource. -/
def transportVersionRuleFor (kinds : List String) : Rule where
  info :=
    { id := "GR_AZURE_003"
      name := "Storage must require TLS 1.2 minimum"
      category := .encryption
      severity := .error
      kinds := .ofList kinds
      absence := .defaultFail }
  evaluate :=
    judgeFirst transportVersionAttribute isRequiredVersion ("'" ++ requiredVersion ++ "'")

/-- The rule for storage accounts. -/
def transportVersionRule : Rule := transportVersionRuleFor [kind]

end StorageAccount

end ConfigAudit
