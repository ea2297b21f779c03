import ConfigAudit.Classification
import ConfigAudit.Tree.Value

/-!
# Rules

A rule judges a resource by its attributes. Beside the judgement it carries what is known of it
without running it: identity, subject, severity, the kinds of resource it applies to, and what it
concludes from a missing attribute.
-/

namespace ConfigAudit

/-- The kinds of resource to which a rule applies. -/
inductive ResourceKinds where
  | universal
  | only (kinds : KeySet)
deriving DecidableEq, Repr, Inhabited

namespace ResourceKinds

/-- The given kinds, their order and repetitions aside. -/
def ofList (kinds : List String) : ResourceKinds :=
  only (KeySet.ofList kinds)

/-- Whether a kind is among them. -/
def includes : ResourceKinds → String → Bool
  | universal, _ => true
  | only kinds, kind => kinds.contains kind

end ResourceKinds

/-- What a rule concludes if the attribute that it inspects is not declared. -/
inductive AbsencePolicy where
  /-- The platform's default is insecure. -/
  | defaultFail
  /-- Nothing is configured, so the rule holds vacuously. -/
  | defaultPass
  /-- The rule cannot judge the resource. -/
  | skip
deriving DecidableEq, Repr, Inhabited

namespace AbsencePolicy

/-- The name in listings. -/
def name : AbsencePolicy → String
  | defaultFail => "default-fail"
  | defaultPass => "default-pass"
  | skip => "skip"

instance : Choice AbsencePolicy := ⟨[defaultFail, defaultPass, skip], name⟩

/-- The outcome for a resource without the attribute. -/
def outcome : AbsencePolicy → Outcome
  | defaultFail => .failed
  | defaultPass => .passed
  | skip => .skipped

end AbsencePolicy

/-- An outcome and, perhaps, the reason for it. -/
structure Evaluation where
  outcome : Outcome
  message : Option String := none
deriving DecidableEq, Repr, Inhabited

namespace Evaluation

/-- The evaluation without remarks. -/
def passed : Evaluation := ⟨.passed, none⟩

/-- A failure and its reason. -/
def failed (reason : String) : Evaluation := ⟨.failed, some reason⟩

/-- A resource left out and the reason. -/
def skipped (reason : String) : Evaluation := ⟨.skipped, some reason⟩

/-- A breakdown of the rule and what is known of it. -/
def unknown (reason : String) : Evaluation := ⟨.unknown, some reason⟩

/-- The evaluation of a resource that does not declare an attribute. -/
def absent (policy : AbsencePolicy) (attributeName : String) : Evaluation where
  outcome := policy.outcome
  message := some <|
    match policy with
    | .defaultFail => "'" ++ attributeName ++ "' is not set; the platform default is insecure"
    | .defaultPass => "no '" ++ attributeName ++ "' declared"
    | .skip => "'" ++ attributeName ++ "' is not set; rule not applicable"

end Evaluation

/-- What becomes of running a rule. -/
inductive Reply where
  | concluded (evaluation : Evaluation)
  /-- The rule complains about a resource that it cannot judge. -/
  | faulted (fault : RuleFault)
  /-- The rule broke off, with a text or with something that is no text. -/
  | crashed (text : Option String)
deriving DecidableEq, Repr, Inhabited

namespace Reply

/-- A breakdown of a rule is an evaluation like any other. -/
def evaluation : Reply → Evaluation
  | concluded evaluation => evaluation
  | faulted fault => .unknown fault.message
  | crashed text => .unknown ("rule panicked: " ++ text.getD "non-string panic payload")

end Reply

/-- What is known of a rule without running it. -/
structure RuleInfo where
  id : String
  name : String
  category : Category
  severity : Severity
  kinds : ResourceKinds
  absence : AbsencePolicy
deriving DecidableEq, Repr, Inhabited

/-- A rule: its description and its judgement on the attributes of a resource. -/
structure Rule where
  info : RuleInfo
  evaluate : Attributes → Reply
  /-- Whether the judgement also cancels the run in which it is asked for. -/
  cancels : Attributes → Bool := fun _ => false

namespace Rule

/-- The rule with another severity and the same judgement. -/
def withSeverity (rule : Rule) (severity : Severity) : Rule :=
  { rule with info := { rule.info with severity } }

end Rule

end ConfigAudit
