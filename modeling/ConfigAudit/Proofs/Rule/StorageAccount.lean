import ConfigAudit.Rule.StorageAccount

/-!
# What the rules on storage accounts decide

The first entry of an attribute is either the one that is required or a failure.
-/

namespace ConfigAudit

namespace StorageAccount

/-- An account passes exactly if the first entry of the attribute is the required one. -/
theorem outcome_judgeFirst (name : String) (isRequired : Value → Bool) (required : String)
    (account : Attributes) :
    (judgeFirst name isRequired required account).evaluation.outcome =
      if (account.first? name).any isRequired then .passed else .failed := by
  unfold judgeFirst
  cases account.first? name with
  | none => rfl
  | some value =>
    rw [Option.any_some]
    cases decision : isRequired value <;> simp [decision, Reply.evaluation, Evaluation.passed,
      Evaluation.failed]

theorem isFalse_iff {value : Value} : isFalse value = true ↔ value = .bool false := by
  cases value <;> simp [isFalse, Value.bool?]

theorem isRequiredVersion_iff {value : Value} :
    isRequiredVersion value = true ↔ value = .text requiredVersion := by
  cases value <;> simp [isRequiredVersion, Value.string?]

end StorageAccount

end ConfigAudit
