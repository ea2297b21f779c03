import Mathlib.Logic.Basic
import ConfigAudit.Proofs.Rule.NetworkExposure
import ConfigAudit.Proofs.Rule.StorageAccount
import ConfigAudit.Proofs.Tree.OfJson

/-!
# What a document says that the built-in rules look for

The findings of the built-in rules in terms of the JSON document of a tree: which accounts are
closed, which security rules expose the secure shell, and which entries are no security rules.
-/

namespace ConfigAudit

namespace StorageAccount

/-- The document declares that an account is closed to public networks. -/
def IsClosed (account : Json) : Prop :=
  (account.entries "public_network_access_enabled").head? = some (.bool false)

/-- The document declares that an account refuses older versions. -/
def RefusesOlderVersions (account : Json) : Prop :=
  (account.entries "min_tls_version").head? = some (.text "TLS1_2")

variable {account : Json} {attributes : Attributes}

theorem first?_of_block? (block : (Value.ofJson account).block? = some attributes) (name : String) :
    attributes.first? name = (account.entries name).head?.map Value.ofJson := by
  rw [Attributes.first?, Value.get_of_block?_ofJson block, List.head?_map]

/-- A rule on the first entry of an attribute fails exactly the accounts whose document has another
one, or none, and it judges every account. -/
theorem outcome_judgeFirst_of_block? (block : (Value.ofJson account).block? = some attributes)
    (name : String) {isRequired : Value → Bool} {wanted : Json}
    (decides : ∀ value, isRequired (Value.ofJson value) = true ↔ value = wanted)
    (required : String) :
    ((judgeFirst name isRequired required attributes).evaluation.outcome = .failed ↔
        (account.entries name).head? ≠ some wanted) ∧
      (judgeFirst name isRequired required attributes).evaluation.outcome ≠ .unknown := by
  have passes : (attributes.first? name).any isRequired = true ↔
      (account.entries name).head? = some wanted := by
    rw [first?_of_block? block, Option.any_map]
    cases (account.entries name).head? with
    | none => simp
    | some value => simp [decides]
  rw [outcome_judgeFirst, ne_eq, ← passes]
  split
  case isTrue same => simp [same]
  case isFalse other => simp [other]

/-- An account fails unless it is closed. -/
theorem outcome_publicAccessRule (block : (Value.ofJson account).block? = some attributes) :
    ((publicAccessRule.evaluate attributes).evaluation.outcome = .failed ↔ ¬ IsClosed account) ∧
      (publicAccessRule.evaluate attributes).evaluation.outcome ≠ .unknown :=
  outcome_judgeFirst_of_block? block publicAccessAttribute
    (fun _ => isFalse_iff.trans Value.ofJson_eq_bool_iff) _

/-- An account fails unless it refuses older versions. -/
theorem outcome_transportVersionRule (block : (Value.ofJson account).block? = some attributes) :
    ((transportVersionRule.evaluate attributes).evaluation.outcome = .failed ↔
        ¬ RefusesOlderVersions account) ∧
      (transportVersionRule.evaluate attributes).evaluation.outcome ≠ .unknown :=
  outcome_judgeFirst_of_block? block transportVersionAttribute
    (fun _ => isRequiredVersion_iff.trans Value.ofJson_eq_text_iff) _

end StorageAccount

namespace NetworkExposure

/-- The first entry of an attribute reads as a word, blanks and letter case aside. -/
def FirstReads (securityRule : Json) (name word : String) : Prop :=
  ∃ first text, (securityRule.entries name).head? = some first ∧ first.scalarText? = some text ∧
    Text.sameLetters (Text.trim text) word = true

/-- One of the texts that stand under some names has a property. -/
def SomeText (securityRule : Json) (names : List String) (holds : String → Bool) : Prop :=
  ∃ name ∈ names, ∃ entry ∈ securityRule.entries name, ∃ text, entry.HasText text ∧
    holds text = true

/-- The document declares a security rule by which inbound traffic from anywhere reaches the port of
the secure shell. -/
structure ExposesShell (securityRule : Json) : Prop where
  inbound : FirstReads securityRule "direction" "Inbound"
  allowed : FirstReads securityRule "access" "Allow"
  covered : SomeText securityRule ["destination_port_range", "destination_port_ranges"]
    (portCovers · 22)
  unlimited : SomeText securityRule ["source_address_prefix", "source_address_prefixes"] isInternet

variable {securityRule group : Json} {attributes : Attributes}

theorem reads_iff_firstReads (block : (Value.ofJson securityRule).block? = some attributes)
    (name word : String) :
    reads attributes name word = true ↔ FirstReads securityRule name word := by
  unfold reads FirstReads Attributes.text? Attributes.first?
  rw [Value.get_of_block?_ofJson block, List.head?_map]
  cases (securityRule.entries name).head? with
  | none => simp
  | some first =>
    rw [Option.map_some, Option.bind_some, Value.scalarText?_ofJson]
    cases reads : first.scalarText? <;> simp [reads]

theorem mem_leafTexts_iff (block : (Value.ofJson securityRule).block? = some attributes)
    (name text : String) :
    text ∈ attributes.leafTexts name ↔ ∃ entry ∈ securityRule.entries name, entry.HasText text := by
  rw [Attributes.leafTexts, Value.get_of_block?_ofJson block, ← Value.ofItems_eq_map,
    Value.mem_leafTexts_ofItems]

/-- The texts of two attributes are those that stand under their names. -/
theorem exists_leafText_iff (block : (Value.ofJson securityRule).block? = some attributes)
    (one other : String) (holds : String → Bool) :
    (∃ text ∈ attributes.leafTexts one ++ attributes.leafTexts other, holds text = true) ↔
      SomeText securityRule [one, other] holds := by
  simp only [List.mem_append, mem_leafTexts_iff block, SomeText]
  constructor
  · rintro ⟨text, ⟨entry, member, inside⟩ | ⟨entry, member, inside⟩, holds⟩
    · exact ⟨one, by simp, entry, member, text, inside, holds⟩
    · exact ⟨other, by simp, entry, member, text, inside, holds⟩
  · rintro ⟨name, named, entry, member, text, inside, holds⟩
    rcases List.mem_cons.1 named with rfl | named
    · exact ⟨text, .inl ⟨entry, member, inside⟩, holds⟩
    · obtain rfl := List.mem_singleton.1 named
      exact ⟨text, .inr ⟨entry, member, inside⟩, holds⟩

/-- A nested block exposes the port of the secure shell if the document says so. -/
theorem exposes_iff_exposesShell (block : (Value.ofJson securityRule).block? = some attributes) :
    Exposes sshPort attributes ↔ ExposesShell securityRule := by
  have inbound := reads_iff_firstReads block "direction" "Inbound"
  have allowed := reads_iff_firstReads block "access" "Allow"
  have covered := exists_leafText_iff block "destination_port_range" "destination_port_ranges"
    (portCovers · sshPort)
  have unlimited := exists_leafText_iff block "source_address_prefix" "source_address_prefixes"
    isInternet
  constructor
  · intro exposes
    exact ⟨inbound.1 exposes.inbound, allowed.1 exposes.allowed, covered.1 exposes.covered,
      unlimited.1 exposes.unlimited⟩
  · intro exposes
    exact ⟨inbound.2 exposes.inbound, allowed.2 exposes.allowed, covered.2 exposes.covered,
      unlimited.2 exposes.unlimited⟩

/-- A group fails if the entries under it are all nested blocks and one of them exposes the port of
the secure shell. -/
theorem outcome_rule_eq_failed_iff (block : (Value.ofJson group).block? = some attributes) :
    (rule.evaluate attributes).evaluation.outcome = .failed ↔
      (∀ entry ∈ group.entries "security_rule", entry.isBlock = true) ∧
        ∃ entry ∈ group.entries "security_rule", ExposesShell entry := by
  refine outcome_judge_eq_failed_iff.trans ?_
  rw [Value.get_of_block?_ofJson block]
  simp only [List.mem_map, forall_exists_index, and_imp, forall_apply_eq_imp_iff₂,
    exists_exists_and_eq_and, Value.isSome_block?_ofJson]
  refine and_congr_right fun blocks => ?_
  constructor
  · rintro ⟨entry, member, securityRule, isBlock, exposes⟩
    exact ⟨entry, member, (exposes_iff_exposesShell isBlock).1 exposes⟩
  · rintro ⟨entry, member, exposes⟩
    have isBlock := blocks entry member
    rw [← Value.isSome_block?_ofJson] at isBlock
    obtain ⟨securityRule, isBlock⟩ := Option.isSome_iff_exists.1 isBlock
    exact ⟨entry, member, securityRule, isBlock, (exposes_iff_exposesShell isBlock).2 exposes⟩

/-- A group cannot be judged if one of the entries under it is no nested block. -/
theorem outcome_rule_eq_unknown_iff (block : (Value.ofJson group).block? = some attributes) :
    (rule.evaluate attributes).evaluation.outcome = .unknown ↔
      ∃ entry ∈ group.entries "security_rule", entry.isBlock = false := by
  refine outcome_judge_eq_unknown_iff.trans ?_
  rw [Value.get_of_block?_ofJson block]
  simp only [List.mem_map, exists_exists_and_eq_and, ← Value.isSome_block?_ofJson,
    Option.isSome_eq_false_iff, Option.isNone_iff_eq_none]
  rfl

end NetworkExposure

end ConfigAudit
