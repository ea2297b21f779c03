import ConfigAudit.Rule.Basic
import ConfigAudit.Text

/-!
# Exposure of a network to the internet

A security group opens a port to the internet if one of its rules lets inbound traffic from
anywhere through to that port. `NetworkExposure.rule` fails a group that exposes the port of the
secure shell; one exposing rule suffices, whatever stands beside it.
-/

namespace ConfigAudit

namespace NetworkExposure

/-- The greatest port, plus one. -/
def portBound : Nat := 65536

/-- The port of the secure shell. -/
def sshPort : Nat := 22

/-- The port that a numeral denotes, blanks at its ends aside. -/
def port? (text : List Char) : Option Nat :=
  Numeral.read? portBound (Text.trimChars text)

/-- Whether a port specification covers a port: an asterisk covers all, two numerals around a dash
cover what lies between them, and a numeral covers one. -/
def portCovers (specification : String) (port : Nat) : Bool :=
  let characters := Text.trimChars specification.toList
  if characters == ['*'] then true
  else
    match characters.span (· != '-') with
    | (low, '-' :: high) =>
      match port? low, port? high with
      | some low, some high => low ≤ port && port ≤ high
      | _, _ => false
    | _ => Numeral.read? portBound characters == some port

/-- The spellings of any source whatsoever. -/
def internetSources : List String :=
  ["*", "0.0.0.0/0", "internet", "any"]

/-- Whether a source is the whole internet. -/
def isInternet (source : String) : Bool :=
  internetSources.any (Text.sameLetters (Text.trim source))

/-- Whether an attribute reads as a word, blanks and letter case aside. -/
def reads (attributes : Attributes) (name word : String) : Bool :=
  match attributes.text? name with
  | some text => Text.sameLetters (Text.trim text) word
  | none => false

/-- The port specifications of a security rule. -/
def portSpecifications (securityRule : Attributes) : List String :=
  securityRule.leafTexts "destination_port_range" ++
    securityRule.leafTexts "destination_port_ranges"

/-- The sources that a security rule names. -/
def sources (securityRule : Attributes) : List String :=
  securityRule.leafTexts "source_address_prefix" ++
    securityRule.leafTexts "source_address_prefixes"

/-- Whether a security rule lets inbound traffic through. -/
def admitsInbound (securityRule : Attributes) : Bool :=
  reads securityRule "direction" "Inbound" && reads securityRule "access" "Allow"

/-- The source by which a security rule opens a port to the internet. -/
def exposingSource? (port : Nat) (securityRule : Attributes) : Option String :=
  if admitsInbound securityRule && (portSpecifications securityRule).any (portCovers · port) then
    (sources securityRule).find? isInternet
  else none

/-- The first exposing rule of a list, with its position and its source. -/
def firstExposure? (securityRules : List Attributes) : Option (Attributes × Nat × String) :=
  securityRules.zipIdx.findSome? fun (securityRule, index) =>
    (exposingSource? sshPort securityRule).map fun source => (securityRule, index, source)

/-- The name of a security rule, or its position counted from one. -/
def label (securityRule : Attributes) (index : Nat) : String :=
  (securityRule.text? "name").getD ("#" ++ Numeral.text (index + 1))

/-- The attribute that holds the security rules of a group. -/
def securityRuleAttribute : String := "security_rule"

/-- The judgement on a security group. -/
def judge (group : Attributes) : Reply :=
  if !group.contains securityRuleAttribute then
    .concluded (.absent .defaultPass securityRuleAttribute)
  else
    match group.blocks? securityRuleAttribute with
    | .error fault => .faulted fault
    | .ok securityRules =>
      match firstExposure? securityRules with
      | none => .concluded .passed
      | some (securityRule, index, source) =>
        .concluded <| .failed <|
          "security_rule " ++ label securityRule index ++ " allows inbound port " ++
            Numeral.text sshPort ++ " from '" ++ source ++ "'"

/-- The kind of resource that holds security rules. -/
def securityGroupKind : String := "azurerm_network_security_group"

/-- The rule against a secure shell open to the internet, for the given kinds of resource. -/
def ruleFor (kinds : List String) : Rule where
  info :=
    { id := "GR_AZURE_001"
      name := "Disallow SSH (22) from Internet on NSG rules"
      category := .networking
      severity := .error
      kinds := .ofList kinds
      absence := .defaultPass }
  evaluate := judge

/-- The rule for security groups. -/
def rule : Rule := ruleFor [securityGroupKind]

end NetworkExposure

end ConfigAudit
