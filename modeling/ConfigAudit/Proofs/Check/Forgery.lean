import ConfigAudit.Json.Printer
import ConfigAudit.Proofs.Check.Outcomes
import ConfigAudit.Proofs.Rule.Wording
import ConfigAudit.Proofs.Tree.Naming
import ConfigAudit.Proofs.Tree.Resources

/-!
# Lines that the input forges

A report repeats names and values of the tree, line feeds and all, so that a name can bring along a
line that looks like another verdict. `Check.marked_lines_of_yields` counts such lines in the text
of any report, and says on which texts of a tree it depends whether there are any.
-/

namespace ConfigAudit

open Page (Mark IsHarmless isHarmless_of_isOneLine)

/-- The number of lines of a kind that the address or the message of a record forges: those behind
a line feed that start like the lines of the kind. -/
def ResultRecord.forgedCount (mark : Mark) (record : ResultRecord) : Nat :=
  Text.furtherCount mark.start record.resource.address.toList +
    Text.furtherCount mark.start (record.message.getD "").toList

namespace Report

/-- The records that the text of a report lists: the failures, then the breakdowns. -/
def listed (report : Report) : List ResultRecord :=
  (report.results.filter fun record => record.outcome == .failed) ++
    report.results.filter fun record => record.outcome == .unknown

/-- The headings of the sections of a report. -/
def headings (report : Report) : List String :=
  (if ∃ record ∈ report.results, record.outcome = .failed then ["## Failures"] else []) ++
    if ∃ record ∈ report.results, record.outcome = .unknown then ["## Not evaluated"] else []

/-- The number of lines of a kind that a report itself has. -/
def ownCount (report : Report) : Mark → Nat
  | .verdict => 1
  | .item => report.listed.length
  | .heading => report.headings.length

/-- The number of lines of a kind that the records of a report forge. -/
def forgedCount (report : Report) (mark : Mark) : Nat :=
  (report.listed.map (ResultRecord.forgedCount mark)).sum

/-- By the starts of its lines, the text of a report has one verdict, an item for each failure and
each breakdown, and the headings of its sections. -/
structure ShowsOwnLines (report : Report) : Prop where
  verdict : (Text.linesStarting "- Verdict: ".toList report.markdown.toList).length = 1
  items : (Text.linesStarting "- [".toList report.markdown.toList).length = report.listed.length
  headings : Text.linesStarting "## ".toList report.markdown.toList =
    report.headings.map String.toList

theorem mem_of_mem_listed (report : Report) {record : ResultRecord}
    (member : record ∈ report.listed) : record ∈ report.results :=
  (List.mem_append.1 member).elim (fun failure => (List.mem_filter.1 failure).1)
    fun breakdown => (List.mem_filter.1 breakdown).1

theorem ofOutcome_results_page (report : Report) (outcome : Outcome) :
    Page.ofOutcome outcome report.page.results =
      (report.results.filter fun record => record.outcome == outcome).map pageResult := by
  rw [Page.ofOutcome, page, List.filter_map]
  rfl

theorem listed_page (report : Report) : report.page.listed = report.listed.map pageResult := by
  rw [Page.listed, listed, ofOutcome_results_page, ofOutcome_results_page, List.map_append]

theorem forgedCount_page (report : Report) (mark : Mark) :
    (report.page.listed.map (Page.forgedCount mark)).sum = report.forgedCount mark := by
  rw [listed_page, List.map_map]
  rfl

theorem sectionHeading_page (report : Report) (title : String) (outcome : Outcome) :
    Page.sectionHeading title (Page.ofOutcome outcome report.page.results) =
      if ∃ record ∈ report.results, record.outcome = outcome then ["## " ++ title] else [] := by
  have empty : Page.ofOutcome outcome report.page.results = [] ↔
      ¬ ∃ record ∈ report.results, record.outcome = outcome := by
    simp [ofOutcome_results_page, List.filter_eq_nil_iff]
  rw [Page.sectionHeading]
  by_cases some : ∃ record ∈ report.results, record.outcome = outcome
  · rw [if_neg (fun none => empty.1 none some), if_pos some]
  · rw [if_pos (empty.2 some), if_neg some]

theorem headings_page (report : Report) : report.page.headings = report.headings := by
  rw [Page.headings, sectionHeading_page, sectionHeading_page]
  rfl

theorem ownCount_page (report : Report) (mark : Mark) :
    report.page.ownCount mark = report.ownCount mark := by
  cases mark with
  | verdict => rfl
  | item => rw [Page.ownCount, listed_page, List.length_map, ownCount]
  | heading => rw [Page.ownCount, headings_page, ownCount]

theorem isOneLine_incompleteReason {data : ReportData} {results : ResultSet}
    (told : data.reasons = Check.reasons results) :
    ∀ reason ∈ incompleteReason data, Text.IsOneLine reason := by
  have known : ∀ reasons ∈ [[], ["run_cancelled"], ["unknown_outcomes"],
      ["run_cancelled", "unknown_outcomes"]], Text.IsOneLine (String.intercalate ", " reasons) := by
    decide +kernel
  have among : data.reasons ∈ [[], ["run_cancelled"], ["unknown_outcomes"],
      ["run_cancelled", "unknown_outcomes"]] := by
    rw [told, Check.reasons]
    split <;> split <;> simp
  intro reason given
  unfold incompleteReason at given
  split at given
  case isTrue => cases given
  case isFalse =>
    split at given
    case isTrue =>
      cases given
      decide
    case isFalse =>
      cases given
      exact known _ among

end Report

namespace Catalog

/-- The descriptions of the built-in rules have no line feeds. -/
theorem isOneLine_of_mem_builtin : ∀ rule ∈ builtin, Text.IsOneLine rule.info.id ∧
    Text.IsOneLine rule.info.name ∧ Text.IsOneLine rule.info.category.name := by
  decide

/-- The kinds of resource that are judged. -/
theorem kind_mem_of_includes {rule : Rule} (member : rule ∈ builtin) {kind : String}
    (judged : rule.info.kinds.includes kind = true) :
    kind ∈ [NetworkExposure.securityGroupKind, StorageAccount.kind] := by
  rcases mem_builtin_iff.1 member with rfl | rfl | rfl
  · rw [ResourceKinds.includes_ofList_singleton.1 judged]
    exact List.mem_cons_self
  all_goals
    rw [ResourceKinds.includes_ofList_singleton.1 judged]
    exact List.mem_cons_of_mem _ List.mem_cons_self

end Catalog

namespace Tree

/-- A tree without a text that could forge a line of a report. Only the names of the resources that
are judged matter, those of the security rules of a group, with the blank that is written behind
them, and the values of two attributes of an account. -/
structure IsHarmless (tree : Tree) : Prop where
  names : ∀ kind ∈ [NetworkExposure.securityGroupKind, StorageAccount.kind],
    ∀ attributes ∈ tree.instances kind, ∀ name ∈ attributes.candidateName?, Page.IsHarmless name
  securityRules : ∀ group ∈ tree.instances NetworkExposure.securityGroupKind,
    NetworkExposure.HasHarmlessNames group
  values : ∀ account ∈ tree.instances StorageAccount.kind,
    ∀ attributeName ∈
      [StorageAccount.publicAccessAttribute, StorageAccount.transportVersionAttribute],
    ∀ text ∈ account.text? attributeName, Page.IsHarmless text

theorem isHarmless_iff {tree : Tree} :
    tree.IsHarmless ↔
      (∀ kind ∈ [NetworkExposure.securityGroupKind, StorageAccount.kind],
        ∀ attributes ∈ tree.instances kind, ∀ name ∈ attributes.candidateName?,
          Page.IsHarmless name) ∧
      (∀ group ∈ tree.instances NetworkExposure.securityGroupKind,
        NetworkExposure.HasHarmlessNames group) ∧
      ∀ account ∈ tree.instances StorageAccount.kind,
        ∀ attributeName ∈
          [StorageAccount.publicAccessAttribute, StorageAccount.transportVersionAttribute],
        ∀ text ∈ account.text? attributeName, Page.IsHarmless text :=
  ⟨fun ⟨names, securityRules, values⟩ => ⟨names, securityRules, values⟩,
    fun ⟨names, securityRules, values⟩ => ⟨names, securityRules, values⟩⟩

instance : DecidablePred IsHarmless := fun _ => decidable_of_iff _ isHarmless_iff.symm

variable {tree : Tree} {resource : Resource} {attributes : Attributes}

/-- The address of a resource repeats its name. -/
theorem IsHarmless.address (harmless : tree.IsHarmless)
    (member : (resource, attributes) ∈ tree.resources)
    (judged : resource.kind ∈ [NetworkExposure.securityGroupKind, StorageAccount.kind]) :
    Page.IsHarmless resource.address := by
  have kinds : ∀ kind ∈ [NetworkExposure.securityGroupKind, StorageAccount.kind],
      Text.IsOneLine kind := by
    decide
  have kind := kinds _ judged
  unfold Resource.address
  cases named : resource.name with
  | none =>
    refine isHarmless_of_isOneLine ?_
    simp only [Text.isOneLine_append_iff, kind, Text.isOneLine_numeral, true_and]
    decide
  | some name =>
    obtain ⟨_, _, kept⟩ := mem_resourcesOfKind_iff.1 (mem_resources_iff.1 member)
    rw [named] at kept
    have candidate := (Option.filter_eq_some_iff.1 kept.symm).1
    have instances := mem_instances_iff.2 ⟨resource, member, rfl⟩
    exact (harmless.names _ judged attributes instances name candidate).after
      (Text.isOneLine_append_iff.2 ⟨kind, by decide⟩)

/-- The reason that a rule has repeats nothing but harmless texts. -/
theorem IsHarmless.reason (harmless : tree.IsHarmless)
    (member : (resource, attributes) ∈ tree.resources) {rule : Rule}
    (builtin : rule ∈ Catalog.builtin) (judged : rule.info.kinds.includes resource.kind = true) :
    ∀ message ∈ (rule.evaluate attributes).evaluation.message, Page.IsHarmless message := by
  have instances {kind : String}
      (judged : (ResourceKinds.ofList [kind]).includes resource.kind = true) :
      attributes ∈ tree.instances kind :=
    mem_instances_iff.2 ⟨resource, member, ResourceKinds.includes_ofList_singleton.1 judged⟩
  rcases Catalog.mem_builtin_iff.1 builtin with rfl | rfl | rfl
  · exact NetworkExposure.isHarmless_judge (harmless.securityRules attributes (instances judged))
  · exact StorageAccount.isHarmless_judgeFirst (by decide) (by decide)
      (harmless.values attributes (instances judged) _ List.mem_cons_self)
  · exact StorageAccount.isHarmless_judgeFirst (by decide) (by decide)
      (harmless.values attributes (instances judged) _
        (List.mem_cons_of_mem _ List.mem_cons_self))

end Tree

namespace Check

variable {request : CheckRequest} {startedAt finishedAt : Timestamp} {outcome : CheckOutcome}
  {tree : Tree}

/-- A record tells what becomes of a built-in rule at a resource of a kind that it judges. -/
theorem Yields.exists_item (yields : Yields request startedAt finishedAt outcome)
    (read : readTree request.treeText = .ok tree) {record : ResultRecord}
    (member : record ∈ outcome.report.results) :
    ∃ (engine : Engine) (overruns : WorkItem → Bool) (rule : Rule) (resource : Resource)
      (attributes : Attributes),
      (resource, attributes) ∈ tree.resources ∧ rule ∈ Catalog.builtin ∧
        rule.info.kinds.includes resource.kind = true ∧
        record = Check.record (engine.resultEntry overruns
          { resource, attributes, rule := Catalog.adjust outcome.settings rule }) := by
  obtain ⟨_, engine, overruns, _, readAgain, built, _, ofWorkList⟩ := yields.exists_engine
  obtain rfl := Except.ok.inj (read.symm.trans readAgain)
  obtain ⟨item, ofItem, rfl⟩ := List.mem_map.1 (ofWorkList.subset member)
  rw [workList_engine built] at ofItem
  obtain ⟨⟨resource, attributes⟩, ofTree, ofResource⟩ := List.mem_flatMap.1 ofItem
  obtain ⟨rule, due, rfl⟩ := List.mem_map.1 ofResource
  obtain ⟨builtin, enabled⟩ := List.mem_filter.1 due
  rw [Bool.and_eq_true] at enabled
  exact ⟨engine, overruns, rule, resource, attributes, ofTree, builtin, enabled.2, rfl⟩

/-- An evaluation of an item is harmless if the reasons of its rule are. -/
theorem isHarmless_evaluation (engine : Engine) (overruns : WorkItem → Bool) {item : WorkItem}
    (identifier : Text.IsOneLine item.rule.info.id)
    (harmless : ∀ message ∈ (item.rule.evaluate item.attributes).evaluation.message,
      Page.IsHarmless message) :
    ∀ message ∈ (engine.evaluation overruns item).message, Page.IsHarmless message := by
  intro message told
  unfold Engine.evaluation at told
  split at told
  case isTrue =>
    cases told
    exact isHarmless_of_isOneLine (Text.isOneLine_append_iff.2 ⟨by decide, identifier⟩)
  case isFalse =>
    split at told
    case h_1 => exact harmless message told
    case h_2 =>
      split at told
      case isTrue =>
        cases told
        refine isHarmless_of_isOneLine ?_
        simp only [Text.isOneLine_append_iff, Text.isOneLine_numeral]
        decide
      case isFalse => exact harmless message told

/-- Only addresses and messages can have line feeds in a report. -/
theorem Yields.isPlain_page (yields : Yields request startedAt finishedAt outcome) :
    outcome.report.page.IsPlain where
  profile := by
    obtain ⟨_, _, _, _, _, _, _, _, _, reported⟩ := yields.exists_results
    have profile : outcome.report.page.data.profile = outcome.settings.profile.name := by
      rw [reported]
      rfl
    rw [profile]
    cases outcome.settings.profile <;> decide
  reason := by
    obtain ⟨_, _, _, results, _, _, _, _, _, reported⟩ := yields.exists_results
    have reasons : outcome.report.data.reasons = reasons results := by
      rw [reported]
      rfl
    exact Report.isOneLine_incompleteReason reasons
  results := by
    obtain ⟨tree, _, _, _, _, read, _⟩ := yields.exists_results
    intro result member
    obtain ⟨record, ofReport, rfl⟩ := List.mem_map.1 member
    obtain ⟨_, _, rule, _, _, _, builtin, _, rfl⟩ := yields.exists_item read ofReport
    obtain ⟨id, name, category⟩ := Catalog.isOneLine_of_mem_builtin rule builtin
    constructor
    · change Text.IsOneLine (Catalog.adjust outcome.settings rule).info.id
      rw [Catalog.info_adjust]
      exact id
    · change Text.IsOneLine (Catalog.adjust outcome.settings rule).info.name
      rw [Catalog.info_adjust]
      exact name
    · change Text.IsOneLine (Catalog.adjust outcome.settings rule).info.category.name
      rw [Catalog.info_adjust]
      exact category

/-- Nothing is forged in a record of a harmless tree. -/
theorem Yields.forgedCount_eq_zero (yields : Yields request startedAt finishedAt outcome)
    (read : readTree request.treeText = .ok tree) (harmless : tree.IsHarmless)
    {record : ResultRecord} (member : record ∈ outcome.report.results) (mark : Mark) :
    record.forgedCount mark = 0 := by
  obtain ⟨engine, overruns, rule, resource, attributes, ofTree, builtin, judged, rfl⟩ :=
    yields.exists_item read member
  have address := harmless.address ofTree (Catalog.kind_mem_of_includes builtin judged)
  let item : WorkItem :=
    { resource, attributes, rule := Catalog.adjust outcome.settings rule }
  have identifier : Text.IsOneLine item.rule.info.id := by
    rw [Catalog.id_adjust]
    exact (Catalog.isOneLine_of_mem_builtin rule builtin).1
  have reasons : ∀ message ∈ (item.rule.evaluate item.attributes).evaluation.message,
      Page.IsHarmless message := by
    rw [Catalog.evaluate_adjust]
    exact harmless.reason ofTree builtin judged
  have message : Page.IsHarmless ((engine.evaluation overruns item).message.getD "") := by
    cases told : (engine.evaluation overruns item).message with
    | none => exact isHarmless_of_isOneLine (by decide)
    | some message => exact isHarmless_evaluation engine overruns identifier reasons message told
  exact Nat.add_eq_zero_iff.2 ⟨address mark, message mark⟩

/-- The text of a report has its own lines of a kind, and besides them those that are forged. -/
theorem Yields.length_linesStarting (yields : Yields request startedAt finishedAt outcome)
    (mark : Mark) :
    (Text.linesStarting mark.start outcome.report.markdown.toList).length =
      outcome.report.ownCount mark + outcome.report.forgedCount mark := by
  rw [← outcome.report.ownCount_page, ← outcome.report.forgedCount_page]
  exact Page.length_linesStarting_render yields.isPlain_page mark

/-- A report shows nothing but its own lines unless one is forged. -/
theorem Yields.showsOwnLines_iff (yields : Yields request startedAt finishedAt outcome) :
    outcome.report.ShowsOwnLines ↔ ∀ mark, outcome.report.forgedCount mark = 0 := by
  have counted := yields.length_linesStarting
  constructor
  · intro shows mark
    have own : (Text.linesStarting mark.start outcome.report.markdown.toList).length =
        outcome.report.ownCount mark := by
      cases mark with
      | verdict => exact shows.verdict
      | item => exact shows.items
      | heading => exact (congrArg List.length shows.headings).trans (List.length_map _)
    exact Nat.add_eq_left.1 ((counted mark).symm.trans own)
  · intro unforged
    constructor
    · exact (counted .verdict).trans (by rw [unforged]; rfl)
    · exact (counted .item).trans (by rw [unforged]; rfl)
    · rw [← outcome.report.headings_page]
      refine Page.linesStarting_heading_render yields.isPlain_page ?_
      rw [outcome.report.forgedCount_page, unforged]

/-- Nothing is forged in the report on a harmless tree. -/
theorem Yields.forgedCount_report_eq_zero (yields : Yields request startedAt finishedAt outcome)
    (read : readTree request.treeText = .ok tree) (harmless : tree.IsHarmless) (mark : Mark) :
    outcome.report.forgedCount mark = 0 := by
  refine List.sum_eq_zero fun count member => ?_
  obtain ⟨record, listed, rfl⟩ := List.mem_map.1 member
  exact yields.forgedCount_eq_zero read harmless (outcome.report.mem_of_mem_listed listed) mark

/-- The text of every report has one line of a verdict, an item for each failure and each breakdown
and the headings of its sections, and besides them exactly the lines that start so behind a line
feed of an address or a message. There are none of these if the tree is harmless, whatever else
stands in it. -/
theorem marked_lines_of_yields (yields : Yields request startedAt finishedAt outcome) :
    let text := outcome.report.markdown.toList
    let forged := outcome.report.forgedCount
    (Text.linesStarting "- Verdict: ".toList text).length = 1 + forged .verdict ∧
    (Text.linesStarting "- [".toList text).length =
      outcome.report.listed.length + forged .item ∧
    (Text.linesStarting "## ".toList text).length =
      outcome.report.headings.length + forged .heading ∧
    (outcome.report.ShowsOwnLines ↔ ∀ mark, forged mark = 0) ∧
    ∀ tree, readTree request.treeText = .ok tree → tree.IsHarmless →
      outcome.report.ShowsOwnLines := by
  intro text forged
  have counted := yields.length_linesStarting
  refine ⟨counted .verdict, counted .item, counted .heading, yields.showsOwnLines_iff, ?_⟩
  intro tree read harmless
  exact yields.showsOwnLines_iff.2 (yields.forgedCount_report_eq_zero read harmless)

/-- An account whose name and whose version have further lines, none of which starts like a line of
the report. -/
theorem marked_lines_of_yields_of_harmless_line_feeds :
    let account : Json := .object
      [("min_tls_version", .array [.text "1\n-"]), ("name", .array [.text "x\n #"])]
    let document : Json := .object [("azurerm_storage_account", .array [account])]
    let request : CheckRequest :=
      { treeText := document.render
        settingsText := "rules.GR_AZURE_002.enabled = false"
        overrides := {} }
    ∃ tree outcome, Yields request .epoch .epoch outcome ∧
      readTree request.treeText = .ok tree ∧ tree.IsHarmless ∧
      outcome.report.listed.map (fun record => (record.resource.address, record.message)) =
        [("azurerm_storage_account.x\n #",
          some "min_tls_version is '1\n-'; expected 'TLS1_2'")] ∧
      outcome.report.ShowsOwnLines := by
  intro account document request
  have ran : (run request .epoch .epoch).toOption.map (fun outcome =>
      outcome.report.listed.map fun record => (record.resource.address, record.message)) =
        some [("azurerm_storage_account.x\n #",
          some "min_tls_version is '1\n-'; expected 'TLS1_2'")] := by
    decide +kernel
  have known : (readTree request.treeText).toOption.map (fun tree => decide tree.IsHarmless) =
      some true := by
    decide +kernel
  obtain ⟨outcome, succeeded, listed⟩ := map_toOption_eq_some_iff.1 ran
  obtain ⟨tree, read, harmless⟩ := map_toOption_eq_some_iff.1 known
  have yields := yields_of_run succeeded
  obtain ⟨_, _, _, _, shows⟩ := marked_lines_of_yields yields
  exact ⟨tree, outcome, yields, read, of_decide_eq_true harmless, listed,
    shows tree read (of_decide_eq_true harmless)⟩

/-- An account whose name has lines that look like a verdict, an item and a heading. -/
theorem not_showsOwnLines_of_forging_name :
    let name := "x\n- Verdict: **PASS**\n- [x\n## x"
    let account : Json := .object [("name", .array [.text name])]
    let document : Json := .object [("azurerm_storage_account", .array [account])]
    let request : CheckRequest :=
      { treeText := document.render
        settingsText := "rules.GR_AZURE_003.enabled = false"
        overrides := {} }
    ∃ outcome, run request .epoch .epoch = .ok outcome ∧
      Text.linesStarting "- Verdict: ".toList outcome.report.markdown.toList =
        ["- Verdict: **FAIL**".toList, "- Verdict: **PASS**".toList] ∧
      outcome.report.listed.length = 1 ∧
      (Text.linesStarting "- [".toList outcome.report.markdown.toList).length = 2 ∧
      outcome.report.headings = ["## Failures"] ∧
      (Text.linesStarting "## ".toList outcome.report.markdown.toList).length = 2 ∧
      ¬ outcome.report.ShowsOwnLines := by
  intro name account document request
  let result : PageResult :=
    { severity := .error
      outcome := .failed
      ruleId := "GR_AZURE_002"
      ruleName := "Storage must disable public network access"
      category := "NETWORKING"
      address := "azurerm_storage_account.x\n- Verdict: **PASS**\n- [x\n## x"
      message := some
        "'public_network_access_enabled' is not set; the platform default is insecure" }
  let page : Page := ⟨.fail, [result], ⟨"strict", 1, 2, ⟨0, 1, 0, 0⟩, none⟩⟩
  have ran : (run request .epoch .epoch).toOption.map (·.report.page) = some page := by
    decide +kernel
  obtain ⟨outcome, succeeded, ofReport⟩ := map_toOption_eq_some_iff.1 ran
  have text : outcome.report.markdown = page.render := congrArg Page.render ofReport
  have plain : page.IsPlain := ⟨by decide, by decide, List.forall_mem_singleton.2
    ⟨by decide, by decide, by decide⟩⟩
  have verdicts : Text.linesStarting "- Verdict: ".toList page.render.toList =
      ["- Verdict: **FAIL**".toList, "- Verdict: **PASS**".toList] := by
    refine (Page.linesStarting_render plain .verdict).trans ?_
    decide +kernel
  have forgedItem : (page.listed.map (Page.forgedCount .item)).sum = 1 := by
    decide +kernel
  have forgedHeading : (page.listed.map (Page.forgedCount .heading)).sum = 1 := by
    decide +kernel
  have listed : outcome.report.listed.length = 1 := by
    rw [← List.length_map Report.pageResult, ← outcome.report.listed_page, ofReport]
    decide +kernel
  have headings : outcome.report.headings = ["## Failures"] := by
    rw [← outcome.report.headings_page, ofReport]
    decide +kernel
  refine ⟨outcome, succeeded, text ▸ verdicts, listed, ?items, headings, ?sections, ?forged⟩
  case items =>
    rw [text]
    refine (Page.length_linesStarting_render plain .item).trans ?_
    rw [forgedItem]
    decide +kernel
  case sections =>
    rw [text]
    refine (Page.length_linesStarting_render plain .heading).trans ?_
    rw [forgedHeading]
    decide +kernel
  case forged =>
    intro shows
    have one := shows.verdict
    rw [text, verdicts] at one
    cases one

end Check

end ConfigAudit
