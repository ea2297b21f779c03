import ConfigAudit.Proofs.Rule.NetworkExposure
import ConfigAudit.Proofs.Rule.StorageAccount

/-!
# What the built-in rules look at

Each built-in rule inspects one attribute. What else a resource declares has no influence on the
reply, and without that attribute the reply is the one that the description of the rule announces.
`Rule.Inspects` says so of any rule, and `Rule.Demands` of one that wants a single value in the first
place. The built-in rules meet them for whichever kinds of resource: `Catalog.rules_inspect`.
-/

namespace ConfigAudit

namespace Rule

/-- A rule decides by one attribute alone. -/
structure Inspects (rule : Rule) (name : String) : Prop where
  /-- Resources with the same entries there get the same reply. -/
  same : ∀ first second : Attributes, first.get name = second.get name →
    rule.evaluate first = rule.evaluate second
  /-- A resource without entries there gets the outcome that the rule announces. -/
  absent : ∀ attributes : Attributes, attributes.get name = [] →
    ∃ message, rule.evaluate attributes = .concluded ⟨rule.info.absence.outcome, message⟩
  /-- Every resource passes or fails, or else the rule complains of it. -/
  decided : ∀ attributes : Attributes,
    (∃ evaluation, rule.evaluate attributes = .concluded evaluation ∧
        (evaluation.outcome = .passed ∨ evaluation.outcome = .failed)) ∨
      ∃ fault, rule.evaluate attributes = .faulted fault

/-- A rule decides by the first entry of one attribute, which has to be a certain value. -/
structure Demands (rule : Rule) (name : String) (required : Value) : Prop
    extends rule.Inspects name where
  /-- Resources with the same first entry there get the same reply. -/
  sameFirst : ∀ first second : Attributes, (first.get name).head? = (second.get name).head? →
    rule.evaluate first = rule.evaluate second
  /-- Every resource is judged, and passes exactly with the required value. -/
  passes : ∀ attributes : Attributes, ∃ evaluation,
    rule.evaluate attributes = .concluded evaluation ∧
      (evaluation.outcome = .passed ↔ ∃ rest, attributes.get name = required :: rest)

end Rule

namespace NetworkExposure

/-- The rule on network exposure looks at the security rules of a group and at nothing else. -/
theorem inspects_ruleFor (kinds : List String) :
    (ruleFor kinds).Inspects securityRuleAttribute where
  same first second agree := by
    have answers := judge_eq_iff.1 (rfl : judge second = judge second)
    exact judge_eq_iff.2 (agree ▸ answers)
  absent attributes empty := ⟨_, judge_eq_iff.2 (.absent empty rfl)⟩
  decided attributes := by
    obtain ⟨reply, answers⟩ := exists_answers (attributes.get securityRuleAttribute)
    have judged : (ruleFor kinds).evaluate attributes = reply := judge_eq_iff.2 answers
    rw [judged]
    cases answers with
    | absent _ told => exact .inl ⟨_, told, .inl rfl⟩
    | stray _ told => exact .inr ⟨_, told⟩
    | exposed _ _ _ told => exact .inl ⟨_, told, .inr rfl⟩
    | harmless _ _ _ told => exact .inl ⟨_, told, .inl rfl⟩

end NetworkExposure

namespace StorageAccount

variable {name required : String} {isRequired : Value → Bool} {wanted : Value}

/-- The first entry of an attribute is the required one iff the entries begin with the value that is
wanted. -/
theorem any_first?_iff (decides : ∀ value, isRequired value = true ↔ value = wanted)
    (attributes : Attributes) :
    (attributes.first? name).any isRequired = true ↔
      ∃ rest, attributes.get name = wanted :: rest := by
  unfold Attributes.first?
  cases attributes.get name with
  | nil => simp
  | cons first rest => simp [decides]

/-- Every account passes or fails, by the first entry of the attribute. -/
theorem judgeFirst_eq_concluded (name required : String) (isRequired : Value → Bool)
    (account : Attributes) :
    ∃ evaluation, judgeFirst name isRequired required account = .concluded evaluation ∧
      evaluation.outcome =
        if (account.first? name).any isRequired then .passed else .failed :=
  ⟨_, rfl, outcome_judgeFirst name isRequired required account⟩

/-- A rule that judges the first entry of an attribute, and fails accounts without any, demands the
value that it requires there. -/
theorem demands_of_judgeFirst {rule : Rule}
    (judges : rule.evaluate = judgeFirst name isRequired required)
    (absence : rule.info.absence = .defaultFail)
    (decides : ∀ value, isRequired value = true ↔ value = wanted) : rule.Demands name wanted := by
  have sameFirst (first second : Attributes)
      (agree : (first.get name).head? = (second.get name).head?) :
      rule.evaluate first = rule.evaluate second := by
    rw [judges, judgeFirst, judgeFirst, Attributes.first?, Attributes.first?, agree]
  refine
    { same := fun first second agree => sameFirst first second (by rw [agree])
      absent := fun attributes empty => ?_
      decided := fun attributes => .inl ?_
      sameFirst
      passes := fun attributes => ?_ }
  · rw [judges, judgeFirst, Attributes.first?, empty, absence]
    exact ⟨_, rfl⟩
  · obtain ⟨evaluation, judged, outcome⟩ :=
      judgeFirst_eq_concluded name required isRequired attributes
    rw [judges]
    refine ⟨evaluation, judged, ?_⟩
    rw [outcome]
    split
    · exact .inl rfl
    · exact .inr rfl
  · obtain ⟨evaluation, judged, outcome⟩ :=
      judgeFirst_eq_concluded name required isRequired attributes
    rw [judges]
    refine ⟨evaluation, judged, ?_⟩
    rw [outcome, ← any_first?_iff decides]
    split
    case isTrue required => exact iff_of_true rfl required
    case isFalse other => exact iff_of_false nofun other

end StorageAccount

namespace Catalog

/-- The built-in rules, for whichever kinds of resource, look at one attribute each, conclude from
its absence what they announce, and never skip a resource or break down. Those on storage accounts
demand one value as its first entry: the truth value false, and the text of a version. -/
theorem rules_inspect (kinds : List String) :
    (NetworkExposure.ruleFor kinds).Inspects "security_rule" ∧
      (StorageAccount.publicAccessRuleFor kinds).Demands "public_network_access_enabled"
        (.bool false) ∧
      (StorageAccount.transportVersionRuleFor kinds).Demands "min_tls_version" (.text "TLS1_2") :=
  ⟨NetworkExposure.inspects_ruleFor kinds,
    StorageAccount.demands_of_judgeFirst rfl rfl fun _ => StorageAccount.isFalse_iff,
    StorageAccount.demands_of_judgeFirst rfl rfl fun _ => StorageAccount.isRequiredVersion_iff⟩

/-- An account with a further version and open to the public is judged by its first version alone. -/
theorem rules_inspect_of_same_first :
    let account : Attributes := [("min_tls_version", [.text "TLS1_2"])]
    let other : Attributes :=
      [("min_tls_version", [.text "TLS1_2", .text "TLS1_0"]),
        ("public_network_access_enabled", [.bool true])]
    (account.get "min_tls_version").head? = (other.get "min_tls_version").head? ∧
      (StorageAccount.transportVersionRuleFor []).evaluate account = .concluded .passed ∧
      (StorageAccount.transportVersionRuleFor []).evaluate other = .concluded .passed := by
  intro account other
  obtain ⟨_, _, demands⟩ := rules_inspect []
  have passes : (StorageAccount.transportVersionRuleFor []).evaluate account =
      .concluded .passed := by
    decide +kernel
  exact ⟨rfl, passes, (demands.sameFirst account other rfl).symm.trans passes⟩

end Catalog

end ConfigAudit
