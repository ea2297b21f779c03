import ConfigAudit.Proofs.Rule.NetworkExposure
import ConfigAudit.Tree.OfJson

/-!
# What stands beside an exposing security rule

A group that fails never passes because of further entries. It keeps failing as long as they are
nested blocks; any other entry keeps it from being judged, so that the failure is no longer told:
`NetworkExposure.evaluate_of_sublist`.
-/

namespace ConfigAudit

namespace NetworkExposure

/-- Whatever entries are put anywhere among those of a group that fails, it still fails iff they are
all nested blocks. Otherwise it is not judged, because of the first entry that is none. -/
theorem evaluate_of_sublist (kinds : List String) {group other : Attributes}
    (failed : ((ruleFor kinds).evaluate group).evaluation.outcome = .failed)
    (kept : (group.get "security_rule").Sublist (other.get "security_rule")) :
    (((ruleFor kinds).evaluate other).evaluation.outcome = .failed ↔
        ∀ entry ∈ other.get "security_rule", entry.IsBlock) ∧
      ∀ position, Value.FirstStrayAt (other.get "security_rule") position →
        (ruleFor kinds).evaluate other = .faulted (.strayEntry "security_rule" position) := by
  constructor
  · obtain ⟨_, entry, member, exposure⟩ := outcome_judge_eq_failed_iff.1 failed
    refine outcome_judge_eq_failed_iff.trans ?_
    simp only [Value.isSome_block?_iff]
    exact and_iff_left ⟨entry, kept.subset member, exposure⟩
  · intro position stray
    exact judge_of_answers (.stray stray rfl)

/-- A failure that stays with a further block before the exposing one. -/
theorem evaluate_of_sublist_of_block :
    let exposing : Attributes :=
      [("access", [.text "Allow"]), ("destination_port_range", [.text "*"]),
        ("direction", [.text "Inbound"]), ("source_address_prefix", [.text "any"])]
    let group : Attributes := [("security_rule", [.block exposing])]
    let other : Attributes := [("security_rule", [.block [], .block exposing])]
    ((ruleFor []).evaluate group).evaluation.outcome = .failed ∧
      (group.get "security_rule").Sublist (other.get "security_rule") ∧
      ((ruleFor []).evaluate other).evaluation.outcome = .failed := by
  intro exposing group other
  have failed : ((ruleFor []).evaluate group).evaluation.outcome = .failed := by
    decide +kernel
  have kept : (group.get "security_rule").Sublist (other.get "security_rule") :=
    List.sublist_cons_self _ _
  refine ⟨failed, kept, ?_⟩
  exact (evaluate_of_sublist [] failed kept).1.2 (Value.forall_isBlock_iff.2 ⟨[[], exposing], rfl⟩)

/-- Two documents declare one group. In the first, a security rule exposes the secure shell, and the
group fails. In the second, a mapping with a bare number stands beside it, and the group does not
fail any longer. -/
theorem failure_lost_beside_mapping :
    let exposing : Json := .object
      [("access", .array [.text "Allow"]), ("destination_port_range", .array [.text "22"]),
        ("direction", .array [.text "Inbound"]), ("source_address_prefix", .array [.text "*"])]
    let mapping : Json := .object [("priority", .number (.whole 100))]
    let document (entries : List Json) : Json := .object
      [("azurerm_network_security_group",
        .array [.object [("security_rule", .array entries)]])]
    ∃ tree otherTree group other, Tree.ofJson (document [exposing]) = .ok tree ∧
      Tree.ofJson (document [exposing, mapping]) = .ok otherTree ∧
      tree.instances securityGroupKind = [group] ∧
      otherTree.instances securityGroupKind = [other] ∧
      (group.get "security_rule").Sublist (other.get "security_rule") ∧
      rule.evaluate group =
        .concluded (.failed "security_rule #1 allows inbound port 22 from '*'") ∧
      rule.evaluate other = .faulted (.strayEntry "security_rule" 2) ∧
      (rule.evaluate other).evaluation.outcome ≠ .failed := by
  intro exposing mapping document
  refine ⟨_, _, _, _, rfl, rfl, rfl, rfl, ?_, by decide +kernel, by decide +kernel,
    by decide +kernel⟩
  exact List.sublist_append_left [_] [_]

end NetworkExposure

end ConfigAudit
