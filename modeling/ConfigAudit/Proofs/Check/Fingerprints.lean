import Mathlib.Data.List.Nodup
import ConfigAudit.Json.Printer
import ConfigAudit.Proofs.Check.Outcomes
import ConfigAudit.Proofs.Tree.Address

/-!
# Fingerprints of records

No two records of a report are fingerprinted by the same text. The identifiers of the built-in rules
have no bars, so the text tells the rule from the address; and a rule of the catalog is for one kind
of resource only, within which addresses differ.
-/

namespace ConfigAudit

namespace Fingerprint

/-- An identifier without bars ends where the first bar stands. -/
theorem takeWhile_identity {ruleId : String} (plain : '|' ∉ ruleId.toList) (address : String) :
    (identity ruleId address).toList.takeWhile (· != '|') = ruleId.toList := by
  have before : ∀ character ∈ ruleId.toList, (character != '|') = true := fun character member =>
    bne_iff_ne.2 (ne_of_mem_of_not_mem member plain)
  simp [identity, List.takeWhile_append_of_pos before]

/-- Identifiers without bars can be told from the addresses that follow them. -/
theorem identity_eq_identity_iff {ruleId otherId address otherAddress : String}
    (plain : '|' ∉ ruleId.toList) (otherPlain : '|' ∉ otherId.toList) :
    identity ruleId address = identity otherId otherAddress ↔
      ruleId = otherId ∧ address = otherAddress := by
  constructor
  · intro same
    have ids : ruleId = otherId := by
      rw [← String.toList_inj, ← takeWhile_identity plain address, same,
        takeWhile_identity otherPlain]
    subst ids
    exact ⟨rfl, (String.append_right_inj _).1 same⟩
  · rintro ⟨rfl, rfl⟩
    rfl

end Fingerprint

namespace ResultRecord

/-- The text that the fingerprint of a record digests. -/
def identity (record : ResultRecord) : String :=
  Fingerprint.identity record.ruleId record.resource.address

end ResultRecord

namespace Catalog

variable {settings : EffectiveSettings} {rule other : Rule}

theorem plain_id_of_mem_builtin : ∀ rule ∈ builtin, '|' ∉ rule.info.id.toList := by
  decide

/-- A built-in rule is for one kind of resource. -/
theorem exists_kind_of_mem_builtin (member : rule ∈ builtin) :
    ∃ kind, rule.info.kinds = .ofList [kind] := by
  rcases mem_builtin_iff.1 member with rfl | rfl | rfl <;> exact ⟨_, rfl⟩

theorem plain_id_of_mem_select (member : rule ∈ select settings builtin) :
    '|' ∉ rule.info.id.toList := by
  obtain ⟨original, ofCatalog, _, rfl⟩ := (mem_select_iff settings).1 member
  rw [id_adjust]
  exact plain_id_of_mem_builtin original ofCatalog

/-- The identifier of a rule of a run determines the kind of the resources that it judges. -/
theorem kind_eq_of_id_eq (member : rule ∈ select settings builtin)
    (otherMember : other ∈ select settings builtin) (ids : rule.info.id = other.info.id)
    {kind otherKind : String} (included : rule.info.kinds.includes kind = true)
    (otherIncluded : other.info.kinds.includes otherKind = true) : kind = otherKind := by
  obtain ⟨original, ofCatalog, _, rfl⟩ := (mem_select_iff settings).1 member
  obtain ⟨_, otherOfCatalog, _, rfl⟩ := (mem_select_iff settings).1 otherMember
  rw [id_adjust, id_adjust] at ids
  obtain rfl := List.inj_on_of_nodup_map nodup_ids_builtin ofCatalog otherOfCatalog ids
  obtain ⟨single, kinds⟩ := exists_kind_of_mem_builtin ofCatalog
  rw [info_adjust, kinds, ResourceKinds.includes_ofList_singleton] at included otherIncluded
  rw [included, otherIncluded]

end Catalog

namespace Check

/-- The items of a work list differ in the texts by which their records are fingerprinted. -/
theorem pairwise_identity_workList {settings : EffectiveSettings} {engine : Engine}
    (built : Check.engine settings = .ok engine) (tree : Tree) :
    (engine.workList tree).Pairwise fun earlier later =>
      Fingerprint.identity earlier.rule.info.id earlier.resource.address ≠
        Fingerprint.identity later.rule.info.id later.resource.address := by
  obtain ⟨indexed, rules⟩ := rules_engine built
  have plain {rule : Rule} (member : rule ∈ engine.rules.rules) : '|' ∉ rule.info.id.toList :=
    Catalog.plain_id_of_mem_select (rules ▸ member)
  rw [Engine.workList_eq indexed, List.pairwise_flatMap]
  constructor
  · -- on one resource the rules have different identifiers
    rintro ⟨resource, attributes⟩ _
    rw [List.pairwise_map]
    have distinct := (List.pairwise_map.1 indexed.distinct).filter fun rule =>
      rule.info.kinds.includes resource.kind
    refine distinct.imp_of_mem fun {earlier later} ofRun otherOfRun different same => ?_
    obtain ⟨member, _⟩ := List.mem_filter.1 ofRun
    obtain ⟨otherMember, _⟩ := List.mem_filter.1 otherOfRun
    exact different
      ((Fingerprint.identity_eq_identity_iff (plain member) (plain otherMember)).1 same).1
  · -- two resources on which one identifier stands are of one kind
    refine tree.pairwise_kind_or_label.imp fun {first second} different => ?_
    intro earlier earlierMember later laterMember same
    obtain ⟨rule, ofRun, rfl⟩ := List.mem_map.1 earlierMember
    obtain ⟨other, otherOfRun, rfl⟩ := List.mem_map.1 laterMember
    obtain ⟨member, included⟩ := List.mem_filter.1 ofRun
    obtain ⟨otherMember, otherIncluded⟩ := List.mem_filter.1 otherOfRun
    obtain ⟨ids, addresses⟩ :=
      (Fingerprint.identity_eq_identity_iff (plain member) (plain otherMember)).1 same
    have kinds : first.1.kind = second.1.kind :=
      Catalog.kind_eq_of_id_eq (rules ▸ member) (rules ▸ otherMember) ids included otherIncluded
    exact different ⟨kinds, (Resource.address_eq_address_iff_of_kind_eq kinds).1 addresses⟩

/-- Whatever the names of the resources, no two records of a report are fingerprinted by the same
text, and so no two have the same fingerprint unless the digest of two of these texts is the
same. -/
theorem nodup_identity_of_yields {request : CheckRequest} {startedAt finishedAt : Timestamp}
    {outcome : CheckOutcome} (yields : Yields request startedAt finishedAt outcome) :
    (∀ record ∈ outcome.report.results,
        record.fingerprint = some (Sha256.hexDigest record.identity)) ∧
      (outcome.report.results.map ResultRecord.identity).Nodup ∧
      (Set.InjOn Sha256.hexDigest {text | text ∈ outcome.report.results.map ResultRecord.identity} →
        (outcome.report.results.map ResultRecord.fingerprint).Nodup) := by
  obtain ⟨tree, engine, overruns, _, _, built, _, ofWorkList⟩ := yields.exists_engine
  have digests : ∀ record ∈ outcome.report.results,
      record.fingerprint = some (Sha256.hexDigest record.identity) := by
    intro record member
    obtain ⟨item, _, rfl⟩ := List.mem_map.1 (ofWorkList.subset member)
    rfl
  have distinct : (outcome.report.results.map ResultRecord.identity).Nodup := by
    refine List.Nodup.sublist (ofWorkList.map _) ?_
    rw [List.map_map]
    exact List.pairwise_map.2 (pairwise_identity_workList built tree)
  refine ⟨digests, distinct, fun collisionFree => ?_⟩
  have fingerprints : outcome.report.results.map ResultRecord.fingerprint =
      (outcome.report.results.map ResultRecord.identity).map (some ∘ Sha256.hexDigest) := by
    rw [List.map_map]
    exact List.map_congr_left digests
  rw [fingerprints]
  exact distinct.map_on fun left leftMember right rightMember same =>
    collisionFree leftMember rightMember (Option.some.inj same)

/-- An account that is named with a bar and like an index, and two that are named alike. -/
theorem nodup_identity_of_yields_of_bars_and_brackets :
    let account (name : String) : Json := .object [("name", .array [.text name])]
    let document : Json :=
      .object [("azurerm_storage_account",
        .array [account "a|b.0]", account "x", account "x"])]
    let request : CheckRequest :=
      { treeText := document.render
        settingsText := "[rules.GR_AZURE_003]\nenabled = false"
        overrides := {} }
    ∃ outcome, Yields request .epoch .epoch outcome ∧
      outcome.report.results.map ResultRecord.identity =
        ["GR_AZURE_002|azurerm_storage_account.a|b.0]", "GR_AZURE_002|azurerm_storage_account[1]",
          "GR_AZURE_002|azurerm_storage_account[2]"] ∧
      (outcome.report.results.map ResultRecord.fingerprint).Nodup := by
  intro account document request
  have ran : (run request .epoch .epoch).toOption.map
      (fun outcome => outcome.report.results.map ResultRecord.identity) = some
        ["GR_AZURE_002|azurerm_storage_account.a|b.0]", "GR_AZURE_002|azurerm_storage_account[1]",
          "GR_AZURE_002|azurerm_storage_account[2]"] := by
    decide +kernel
  obtain ⟨outcome, succeeded, texts⟩ := Option.map_eq_some_iff.1 ran
  have yields := yields_of_run (toOption_eq_some_iff.1 succeeded)
  refine ⟨outcome, yields, texts, (nodup_identity_of_yields yields).2.2 ?_⟩
  rw [texts]
  exact List.inj_on_of_nodup_map (by decide +kernel)

end Check

end ConfigAudit
