import ConfigAudit.Check
import ConfigAudit.Proofs.Check.Findings
import ConfigAudit.Proofs.Check.Outcomes
import ConfigAudit.Proofs.Engine
import ConfigAudit.Proofs.Json.Canonical
import ConfigAudit.Proofs.Json.RoundTrip
import ConfigAudit.Proofs.ResultSet
import ConfigAudit.Proofs.Rule.Catalog
import ConfigAudit.Proofs.Settings.Default

/-!
# A check under the default settings

From the text of a document to the verdict and the exit code: a check fails exactly the documents
that declare something which a built-in rule forbids, and it warns of those in which it finds an
entry that it cannot judge.
-/

namespace ConfigAudit

namespace Check

/-- The document declares an account that is not closed or does not refuse older versions, or a
group of nothing but nested blocks one of which exposes the secure shell. -/
def IsUnsafe (document : Json) : Prop :=
  (∃ account ∈ document.entries "azurerm_storage_account",
      ¬ StorageAccount.IsClosed account ∨ ¬ StorageAccount.RefusesOlderVersions account) ∨
    ∃ group ∈ document.entries "azurerm_network_security_group",
      (∀ entry ∈ group.entries "security_rule", entry.isBlock = true) ∧
        ∃ entry ∈ group.entries "security_rule", NetworkExposure.ExposesShell entry

/-- The document declares a group with an entry that is no nested block. -/
def HasStrayEntry (document : Json) : Prop :=
  ∃ group ∈ document.entries "azurerm_network_security_group",
    ∃ entry ∈ group.entries "security_rule", entry.isBlock = false

/-- The engine that judges by the catalog as it is. -/
def defaultEngine : Engine where
  rules := Catalog.builtin.foldl RuleSet.append RuleSet.empty

/-! ## The engine -/

theorem ofRules_builtin : RuleSet.ofRules Catalog.builtin = .ok defaultEngine.rules :=
  RuleSet.ofRules_eq_ok Catalog.flaw?_of_mem_builtin Catalog.nodup_ids_builtin

theorem engine_defaults : engine Settings.defaults = .ok defaultEngine := by
  rw [engine, Catalog.ruleSet_eq_ofRules, Settings.select_defaults, ofRules_builtin,
    Settings.options_defaults]
  rfl

/-- The rules of the catalog never cancel a run. -/
theorem undisturbed_defaultEngine (tree : Tree) : defaultEngine.Undisturbed tree {} false :=
  undisturbed_engine engine_defaults tree

/-- The results of a run by the catalog as it is. -/
def results (tree : Tree) : ResultSet :=
  (defaultEngine.run tree {} false).results

theorem complete_results (tree : Tree) : (results tree).complete = true := by
  rw [results, Engine.results_run (undisturbed_defaultEngine tree)]

/-- The entries are the due ones of the instances and rules. -/
theorem mem_results_iff {tree : Tree} {entry : ResultEntry} :
    entry ∈ (results tree).entries ↔
      ∃ resource attributes, (resource, attributes) ∈ tree.resources ∧
        ∃ rule ∈ Catalog.builtin, rule.info.kinds.includes resource.kind = true ∧
          defaultEngine.dueEntry resource attributes rule = entry := by
  obtain ⟨indexed, rules⟩ := RuleSet.indexed_of_ofRules ofRules_builtin
  rw [results, Engine.entries_run indexed rfl (undisturbed_defaultEngine tree), rules]
  simp [and_assoc]

theorem severity_of_mem_results {tree : Tree} {entry : ResultEntry}
    (member : entry ∈ (results tree).entries) : entry.severity = .error := by
  obtain ⟨_, _, _, rule, builtin, _, rfl⟩ := mem_results_iff.1 member
  rcases Catalog.mem_builtin_iff.1 builtin with rfl | rfl | rfl <;> rfl

/-! ## Outcomes -/

/-- A rule of the catalog has an entry for each instance of a kind that it includes. -/
theorem exists_entry_of_instance {tree : Tree} {rule : Rule} (builtin : rule ∈ Catalog.builtin)
    {kind : String} (included : rule.info.kinds.includes kind = true) {attributes : Attributes}
    (member : attributes ∈ tree.instances kind) :
    ∃ entry ∈ (results tree).entries,
      entry.outcome = (rule.evaluate attributes).evaluation.outcome := by
  obtain ⟨resource, ofTree, rfl⟩ := Tree.mem_instances_iff.1 member
  exact ⟨_, mem_results_iff.2 ⟨resource, attributes, ofTree, rule, builtin, included, rfl⟩,
    Engine.outcome_dueEntry rfl⟩

/-- The outcomes of a run are those of the rules on the instances of their kinds. -/
theorem exists_outcome_iff (tree : Tree) (outcome : Outcome) :
    (∃ entry ∈ (results tree).entries, entry.outcome = outcome) ↔
      (∃ group ∈ tree.instances NetworkExposure.securityGroupKind,
          (NetworkExposure.rule.evaluate group).evaluation.outcome = outcome) ∨
        ∃ account ∈ tree.instances StorageAccount.kind,
          (StorageAccount.publicAccessRule.evaluate account).evaluation.outcome = outcome ∨
            (StorageAccount.transportVersionRule.evaluate account).evaluation.outcome =
              outcome := by
  constructor
  · rintro ⟨entry, member, found⟩
    obtain ⟨resource, attributes, ofTree, rule, builtin, included, rfl⟩ := mem_results_iff.1 member
    rw [Engine.outcome_dueEntry rfl] at found
    have ofKind {kind : String}
        (named : (ResourceKinds.ofList [kind]).includes resource.kind = true) :
        attributes ∈ tree.instances kind :=
      Tree.mem_instances_iff.2
        ⟨resource, ofTree, ResourceKinds.includes_ofList_singleton.1 named⟩
    rcases Catalog.mem_builtin_iff.1 builtin with rfl | rfl | rfl
    · exact .inl ⟨attributes, ofKind included, found⟩
    · exact .inr ⟨attributes, ofKind included, .inl found⟩
    · exact .inr ⟨attributes, ofKind included, .inr found⟩
  · rintro (⟨group, member, rfl⟩ | ⟨account, member, rfl | rfl⟩)
    · exact exists_entry_of_instance (Catalog.mem_builtin_iff.2 (.inl rfl))
        (ResourceKinds.includes_ofList_singleton.2 rfl) member
    · exact exists_entry_of_instance (Catalog.mem_builtin_iff.2 (.inr (.inl rfl)))
        (ResourceKinds.includes_ofList_singleton.2 rfl) member
    · exact exists_entry_of_instance (Catalog.mem_builtin_iff.2 (.inr (.inr rfl)))
        (ResourceKinds.includes_ofList_singleton.2 rfl) member

variable {document : Json} {tree : Tree}

/-- Something fails if the document is unsafe. -/
theorem exists_failed_iff (canonical : document.Canonical)
    (accepted : Tree.ofJson document = .ok tree) :
    (∃ entry ∈ (results tree).entries, entry.outcome = .failed) ↔ IsUnsafe document := by
  refine (exists_outcome_iff tree .failed).trans (or_comm.trans (or_congr ?_ ?_))
  · exact Tree.exists_instance_iff canonical accepted fun block =>
      or_congr (StorageAccount.outcome_publicAccessRule block).1
        (StorageAccount.outcome_transportVersionRule block).1
  · exact Tree.exists_instance_iff canonical accepted NetworkExposure.outcome_rule_eq_failed_iff

/-- Something cannot be judged if the document has a stray entry. -/
theorem exists_unknown_iff (canonical : document.Canonical)
    (accepted : Tree.ofJson document = .ok tree) :
    (∃ entry ∈ (results tree).entries, entry.outcome = .unknown) ↔ HasStrayEntry document := by
  refine (exists_outcome_iff tree .unknown).trans ((or_iff_left ?_).trans ?_)
  -- The rules on accounts judge every account.
  · have none : ¬ ∃ account ∈ document.entries StorageAccount.kind, False := by
      rintro ⟨_, _, impossible⟩
      exact impossible
    refine mt (Tree.exists_instance_iff canonical accepted fun block => ?_).1 none
    exact iff_false_intro (not_or.2 ⟨(StorageAccount.outcome_publicAccessRule block).2,
      (StorageAccount.outcome_transportVersionRule block).2⟩)
  · exact Tree.exists_instance_iff canonical accepted NetworkExposure.outcome_rule_eq_unknown_iff

theorem run_defaults {treeText settingsText : String}
    (parsed : Json.parse? treeText = some document) (accepted : Tree.ofJson document = .ok tree)
    (blank : Text.isBlankText settingsText = true) (startedAt finishedAt : Timestamp) :
    run { treeText, settingsText, overrides := {}, cancelled := false } startedAt finishedAt =
      .ok
        { report :=
            report Settings.defaults tree defaultEngine.rules (results tree) startedAt finishedAt
          settings := Settings.defaults } := by
  have read : readTree treeText = .ok tree := by
    rw [readTree, parsed]
    exact mapError_eq_ok.2 accepted
  refine bind_eq_ok.2 ⟨Settings.defaults, ?_, ?_⟩
  · exact mapError_eq_ok.2 (Settings.load_of_isBlankText blank)
  · exact bind_eq_ok.2 ⟨tree, read, bind_eq_ok.2 ⟨defaultEngine, engine_defaults, rfl⟩⟩

theorem exitCode_eq_two_iff {verdict : Verdict} : exitCode verdict = 2 ↔ verdict = .fail := by
  cases verdict <;> simp [exitCode]

/-- With a blank settings file and no options, a check of any document that denotes a tree comes to
a report. Its verdict is a failure, and the exit code 2, iff the document is unsafe; otherwise the
verdict is a warning iff the document has a stray entry. -/
theorem verdict_run_of_defaults {treeText settingsText : String}
    (parsed : Json.parse? treeText = some document) (accepted : Tree.ofJson document = .ok tree)
    (blank : Text.isBlankText settingsText = true) (startedAt finishedAt : Timestamp) :
    ∃ outcome,
      run { treeText, settingsText, overrides := {}, cancelled := false } startedAt finishedAt =
          .ok outcome ∧
        (outcome.report.verdict = .fail ↔ IsUnsafe document) ∧
        (exitCode outcome.report.verdict = 2 ↔ IsUnsafe document) ∧
        (outcome.report.verdict = .warn ↔ ¬ IsUnsafe document ∧ HasStrayEntry document) ∧
        (outcome.report.verdict = .pass ↔ ¬ IsUnsafe document ∧ ¬ HasStrayEntry document) := by
  have canonical := Json.canonical_of_parse? parsed
  have grave : ∀ entry ∈ (results tree).entries, entry.severity = .error :=
    fun _ => severity_of_mem_results
  have fails : (results tree).verdict .error = .fail ↔ IsUnsafe document :=
    (ResultSet.verdict_error_eq_fail_iff grave).trans (exists_failed_iff canonical accepted)
  have warns : (results tree).verdict .error = .warn ↔
      ¬ IsUnsafe document ∧ HasStrayEntry document := by
    rw [ResultSet.verdict_error_eq_warn_iff grave (complete_results tree),
      exists_failed_iff canonical accepted, exists_unknown_iff canonical accepted]
  have passes : (results tree).verdict .error = .pass ↔
      ¬ IsUnsafe document ∧ ¬ HasStrayEntry document := by
    cases verdict : (results tree).verdict .error <;> simp_all
  exact ⟨_, run_defaults parsed accepted blank startedAt finishedAt, fails,
    exitCode_eq_two_iff.trans fails, warns, passes⟩

/-- A group with a range of ports that contains the one of the secure shell, beside an account with
nothing to complain of. -/
theorem verdict_run_of_defaults_of_exposure :
    let account : Json := .object
      [("min_tls_version", .array [.text "TLS1_2"]),
        ("public_network_access_enabled", .array [.bool false])]
    let securityRule : Json := .object
      [("access", .array [.text "allow"]),
        ("destination_port_ranges", .array [.array [.number (.whole 443), .text "0-100"]]),
        ("direction", .array [.text " INBOUND"]),
        ("source_address_prefix", .array [.text "*"])]
    let document : Json := .object
      [("azurerm_network_security_group",
          .array [.object [("security_rule", .array [securityRule])]]),
        ("azurerm_storage_account", .array [account])]
    ∃ outcome,
      run { treeText := document.render, settingsText := " ", overrides := {}, cancelled := false }
          .epoch .epoch = .ok outcome ∧
        exitCode outcome.report.verdict = 2 := by
  intro account securityRule document
  have fits : Json.Fits Json.maxDepth document := by
    simp [document, account, securityRule, Json.Fits, Json.FitMembers, Json.FitItems, Json.IsExact,
      Json.maxDepth, Width.span]
  have canonical : document.Canonical := by
    simp only [document, account, securityRule, Json.Canonical, Json.CanonicalItems,
      Json.CanonicalMembers, and_true]
    decide +kernel
  have parsed := Json.parse?_render_of_canonical canonical fits
  have blank : Text.isBlankText " " = true := by decide
  obtain ⟨outcome, run, _, exits, _⟩ :=
    verdict_run_of_defaults parsed rfl blank .epoch .epoch
  refine ⟨outcome, run, exits.2 (.inr ⟨_, List.mem_cons_self, ?_, securityRule, ?_, ?_⟩)⟩
  · intro entry member
    obtain rfl := List.mem_singleton.1 member
    rfl
  · exact List.mem_cons_self
  · exact
      { inbound := ⟨_, _, rfl, rfl, by decide⟩
        allowed := ⟨_, _, rfl, rfl, by decide⟩
        covered := ⟨"destination_port_ranges", by simp, _, List.mem_cons_self, "0-100",
          .item (List.mem_cons_of_mem _ List.mem_cons_self) (.scalar rfl), by decide⟩
        unlimited := ⟨"source_address_prefix", by simp, _, List.mem_cons_self, "*", .scalar rfl,
          by decide⟩ }

end Check

end ConfigAudit
