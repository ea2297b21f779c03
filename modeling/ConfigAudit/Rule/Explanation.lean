import ConfigAudit.Text

/-!
# Explanations

What each built-in rule is about, what it concludes from a missing attribute, and how a violation
is mended, for display on a terminal.
-/

namespace ConfigAudit

/-- The explanation of a rule. -/
structure Explanation where
  title : String
  description : String
  /-- What the rule concludes if the attribute that it inspects is not declared. -/
  absencePolicy : String
  remediation : String
  /-- A declaration that the rule fails. -/
  before : String
  /-- The declaration mended. -/
  after : String
deriving DecidableEq, Repr, Inhabited

namespace Explanation

/-- The rule against a secure shell open to the internet. -/
def networkExposure : Explanation where
  title := "Disallow SSH (22) from Internet on NSG rules"
  description :=
    Text.joinLines
      ["Detects network security groups with an inbound allow rule that exposes port 22",
        "to the open internet.",
        "",
        "A `security_rule` block matches when all of these hold:",
        "- `direction` is `Inbound` and `access` is `Allow`",
        "- the destination port covers 22 (`22`, `*`, or a range such as `20-30`)",
        "- the source is `*`, `0.0.0.0/0`, `Internet`, or `Any`",
        "",
        "Every block is inspected; a single matching block fails the resource."]
  absencePolicy :=
    Text.joinLines
      ["Default-pass: a security group without any `security_rule` blocks exposes nothing,",
        "so it passes vacuously."]
  remediation :=
    Text.joinLines
      ["Restrict the source to a trusted range (VPN, bastion subnet) or remove the rule",
        "and use a bastion host / just-in-time access instead."]
  before :=
    Text.joinLines
      ["security_rule \x7b",
        "  name                       = \"ssh\"",
        "  direction                  = \"Inbound\"",
        "  access                     = \"Allow\"",
        "  destination_port_range     = \"22\"",
        "  source_address_prefix      = \"*\"",
        "\x7d"]
  after :=
    Text.joinLines
      ["security_rule \x7b",
        "  name                       = \"ssh\"",
        "  direction                  = \"Inbound\"",
        "  access                     = \"Allow\"",
        "  destination_port_range     = \"22\"",
        "  source_address_prefix      = \"10.0.0.0/24\"",
        "\x7d"]

/-- The rule that a storage account is closed to public networks. -/
def publicAccess : Explanation where
  title := "Storage must disable public network access"
  description :=
    Text.joinLines
      ["Detects storage accounts that accept traffic from public networks.",
        "",
        "Only an explicit `public_network_access_enabled = false` passes."]
  absencePolicy :=
    Text.joinLines
      ["Default-fail: when the attribute is not declared the platform enables public",
        "network access, so absence is treated as insecure."]
  remediation :=
    Text.joinLines
      ["Set `public_network_access_enabled = false` and reach the account through",
        "private endpoints."]
  before :=
    Text.joinLines
      ["resource \"azurerm_storage_account\" \"logs\" \x7b",
        "  name = \"logs\"",
        "\x7d"]
  after :=
    Text.joinLines
      ["resource \"azurerm_storage_account\" \"logs\" \x7b",
        "  name                          = \"logs\"",
        "  public_network_access_enabled = false",
        "\x7d"]

/-- The rule that a storage account refuses older versions of the transport security
protocol. -/
def transportVersion : Explanation where
  title := "Storage must require TLS 1.2 minimum"
  description :=
    Text.joinLines
      ["Detects storage accounts that accept TLS versions older than 1.2.",
        "",
        "Only `min_tls_version = \"TLS1_2\"` passes."]
  absencePolicy :=
    Text.joinLines
      ["Default-fail: an undeclared minimum TLS version may fall back to an older",
        "platform default, so absence is treated as insecure."]
  remediation := "Set `min_tls_version = \"TLS1_2\"` on the storage account."
  before :=
    Text.joinLines
      ["resource \"azurerm_storage_account\" \"logs\" \x7b",
        "  min_tls_version = \"TLS1_0\"",
        "\x7d"]
  after :=
    Text.joinLines
      ["resource \"azurerm_storage_account\" \"logs\" \x7b",
        "  min_tls_version = \"TLS1_2\"",
        "\x7d"]

/-- The explanations by rule identifier. -/
def registry : List (String × Explanation) :=
  [("GR_AZURE_001", networkExposure), ("GR_AZURE_002", publicAccess),
    ("GR_AZURE_003", transportVersion)]

/-- The explanation of the rule with an identifier. -/
def ofRule? (id : String) : Option Explanation :=
  registry.lookup id

/-- The identifiers of the rules with an explanation. -/
def ruleIds : List String :=
  registry.map Prod.fst

/-- A line of equals signs as long as a title. -/
def underline (title : String) : String :=
  String.ofList (List.replicate title.utf8ByteSize '=')

/-- A titled part of an explanation. -/
def part (title rule content : String) : String :=
  title ++ "\n" ++ rule ++ "\n" ++ content ++ "\n\n"

/-- A declaration set off from the text. -/
def codeBlock (title code : String) : String :=
  title ++ "\n```hcl\n" ++ code ++ "\n```\n"

/-- The text of an explanation. -/
def render (explanation : Explanation) : String :=
  explanation.title ++ "\n" ++ underline explanation.title ++ "\n\n" ++
    explanation.description ++ "\n\n" ++
    part "When unset" "----------" explanation.absencePolicy ++
    part "Remediation" "-----------" explanation.remediation ++
    "Examples\n--------\n\n" ++
    codeBlock "Before (violation):" explanation.before ++ "\n" ++
    codeBlock "After (fixed):" explanation.after

/-- The text for an identifier that no rule has. -/
def renderUnknown (id : String) : String :=
  "Unknown rule id: " ++ id ++ "\n\nAvailable rule ids:\n" ++
    String.join (ruleIds.map fun known => "  - " ++ known ++ "\n")

end Explanation

end ConfigAudit
