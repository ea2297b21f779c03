import ConfigAudit.Proofs.Rule.NetworkExposure

/-!
# The decision on a security group

`NetworkExposure.Decides` says of the entries that a group declares which reply they get, in terms
of the texts that stand in them. `NetworkExposure.evaluate_decides` is that the rule replies just so,
and that the order of nested blocks plays no part in whether a group fails.
-/

namespace ConfigAudit

/-! ## Texts -/

namespace Value

/-- A text is that of a scalar in a value, at any depth of nested lists. -/
inductive HasText (text : String) : Value → Prop where
  | scalar {value : Value} (reads : value.scalarText? = some text) : HasText text value
  | item {items : List Value} {item : Value} (member : item ∈ items) (inside : HasText text item) :
    HasText text (.list items)

theorem hasText_list {text : String} {items : List Value} :
    (Value.list items).HasText text ↔ ∃ item ∈ items, item.HasText text := by
  constructor
  · rintro (⟨reads⟩ | ⟨member, inside⟩)
    · exact nomatch reads
    · exact ⟨_, member, inside⟩
  · rintro ⟨_, member, inside⟩
    exact .item member inside

mutual

theorem mem_leafTexts_iff {text : String} (value : Value) :
    text ∈ value.leafTexts ↔ value.HasText text := by
  match value with
  | .list items => rw [leafTexts, mem_leafTextsOfAll_iff items, hasText_list]
  | .null | .bool _ | .int _ | .float _ | .text _ | .map _ | .block _ =>
    rw [leafTexts, Option.mem_toList]
    · refine ⟨.scalar, ?_⟩
      rintro ⟨reads⟩
      exact reads
    · exact nofun

theorem mem_leafTextsOfAll_iff {text : String} (values : List Value) :
    text ∈ leafTextsOfAll values ↔ ∃ value ∈ values, value.HasText text := by
  match values with
  | [] => simp [leafTextsOfAll]
  | value :: values =>
    simp [leafTextsOfAll, mem_leafTexts_iff value, mem_leafTextsOfAll_iff values]

end

end Value

namespace Attributes

/-- The first entry of an attribute reads as a word, blanks at its ends and letter case aside. -/
def FirstReads (attributes : Attributes) (name word : String) : Prop :=
  ∃ first rest text, attributes.get name = first :: rest ∧ first.scalarText? = some text ∧
    Text.sameLetters (Text.trim text) word = true

/-- One of the texts under some names has a property. -/
def SomeText (attributes : Attributes) (names : List String) (holds : String → Prop) : Prop :=
  ∃ name ∈ names, ∃ entry ∈ attributes.get name, ∃ text, entry.HasText text ∧ holds text

theorem someText_pair {attributes : Attributes} {one other : String} {holds : String → Prop} :
    attributes.SomeText [one, other] holds ↔
      ∃ text ∈ attributes.leafTexts one ++ attributes.leafTexts other, holds text := by
  simp only [SomeText, leafTexts, List.mem_append, Value.mem_leafTextsOfAll_iff]
  constructor
  · rintro ⟨name, named, entry, member, text, inside, holds⟩
    rcases List.mem_cons.1 named with rfl | named
    · exact ⟨text, .inl ⟨entry, member, inside⟩, holds⟩
    · obtain rfl := List.mem_singleton.1 named
      exact ⟨text, .inr ⟨entry, member, inside⟩, holds⟩
  · rintro ⟨text, ⟨entry, member, inside⟩ | ⟨entry, member, inside⟩, holds⟩
    · exact ⟨one, by simp, entry, member, text, inside, holds⟩
    · exact ⟨other, by simp, entry, member, text, inside, holds⟩

end Attributes

namespace NetworkExposure

/-! ## Exposing security rules -/

/-- A source stands for the whole internet, blanks at its ends and letter case aside. -/
def MeansInternet (source : String) : Prop :=
  ∃ word ∈ ["*", "0.0.0.0/0", "internet", "any"], Text.sameLetters (Text.trim source) word = true

/-- A security rule lets inbound traffic from the whole internet through to the secure shell. -/
structure IsExposing (securityRule : Attributes) : Prop where
  inbound : securityRule.FirstReads "direction" "Inbound"
  allowed : securityRule.FirstReads "access" "Allow"
  covered : securityRule.SomeText ["destination_port_range", "destination_port_ranges"]
    fun specification => portCovers specification 22 = true
  unlimited : securityRule.SomeText ["source_address_prefix", "source_address_prefixes"]
    MeansInternet

/-- A source is the first of a security rule that stands for the whole internet. Those of the
attribute for one source come before those of the attribute for several. -/
def IsFirstSource (securityRule : Attributes) (source : String) : Prop :=
  ∃ before after,
    securityRule.leafTexts "source_address_prefix" ++
        securityRule.leafTexts "source_address_prefixes" = before ++ source :: after ∧
      MeansInternet source ∧ ∀ earlier ∈ before, ¬ MeansInternet earlier

/-- A security rule goes by its name, or by its position if its name is no scalar. -/
def IsLabel (securityRule : Attributes) (position : Nat) (label : String) : Prop :=
  securityRule.text? "name" = some label ∨
    securityRule.text? "name" = none ∧ label = "#" ++ Numeral.text position

/-- Entries are nested blocks, and the first exposing one among them goes by a label and lets a
source in. -/
inductive FirstExposure (entries : List Value) (label source : String) : Prop where
  | intro {before after : List Attributes} {securityRule : Attributes}
      (blocks : entries = (before ++ securityRule :: after).map .block)
      (harmless : ∀ earlier ∈ before, ¬ IsExposing earlier)
      (exposing : IsExposing securityRule)
      (labelled : IsLabel securityRule (before.length + 1) label)
      (first : IsFirstSource securityRule source)

theorem isInternet_iff {source : String} : isInternet source = true ↔ MeansInternet source := by
  simp only [isInternet, internetSources, List.any_eq_true, MeansInternet]

theorem reads_iff {attributes : Attributes} {name word : String} :
    reads attributes name word = true ↔ attributes.FirstReads name word := by
  unfold reads Attributes.FirstReads Attributes.text? Attributes.first?
  cases attributes.get name with
  | nil => simp
  | cons first rest => cases reads : first.scalarText? <;> simp [reads]

/-- What exposes the port can be told from the texts that stand in a security rule. -/
theorem exposes_iff {securityRule : Attributes} :
    Exposes sshPort securityRule ↔ IsExposing securityRule := by
  have covered : (∃ specification ∈ portSpecifications securityRule,
      portCovers specification sshPort = true) ↔ _ := Attributes.someText_pair.symm
  have unlimited : (∃ source ∈ sources securityRule, MeansInternet source) ↔ _ :=
    Attributes.someText_pair.symm
  simp only [← isInternet_iff] at unlimited
  constructor
  · rintro ⟨inbound, allowed, covers, source⟩
    refine ⟨reads_iff.1 inbound, reads_iff.1 allowed, covered.1 covers, ?_⟩
    simpa only [isInternet_iff] using unlimited.1 source
  · rintro ⟨inbound, allowed, covers, source⟩
    refine ⟨reads_iff.2 inbound, reads_iff.2 allowed, covered.2 covers, unlimited.2 ?_⟩
    simpa only [isInternet_iff] using source

theorem isFirstSource_iff {securityRule : Attributes} {source : String} :
    (sources securityRule).find? isInternet = some source ↔ IsFirstSource securityRule source := by
  simp only [List.find?_eq_some_iff_append, Bool.not_eq_true', Bool.eq_false_iff, ne_eq,
    isInternet_iff, sources, IsFirstSource]
  constructor
  · rintro ⟨internet, before, after, parts, others⟩
    exact ⟨before, after, parts, internet, others⟩
  · rintro ⟨before, after, parts, internet, others⟩
    exact ⟨internet, before, after, parts, others⟩

theorem exposingSource?_eq_some_iff_isFirstSource {securityRule : Attributes} {source : String} :
    exposingSource? sshPort securityRule = some source ↔
      IsExposing securityRule ∧ IsFirstSource securityRule source := by
  rw [exposingSource?_eq_some_iff, exposes_iff, isFirstSource_iff]

theorem label_eq_iff {securityRule : Attributes} {index : Nat} {text : String} :
    label securityRule index = text ↔ IsLabel securityRule (index + 1) text := by
  unfold label IsLabel
  cases securityRule.text? "name" <;> simp [eq_comm]

theorem exposureReason_eq (securityRule : Attributes) (index : Nat) (source : String) :
    exposureReason securityRule index source =
      "security_rule " ++ label securityRule index ++ " allows inbound port 22 from '" ++ source ++
        "'" := by
  have port : Numeral.text sshPort = "22" := by decide
  have joined : " allows inbound port " ++ "22" ++ " from '" = " allows inbound port 22 from '" := by
    decide
  unfold exposureReason
  rw [port, ← joined]
  simp only [String.append_assoc]

/-! ## Replies -/

theorem outcome_eq_of_concluded_eq {first second : Evaluation}
    (same : Reply.concluded first = .concluded second) : first.outcome = second.outcome := by
  cases same
  rfl

section

variable {entries : List Value}

theorem answers_absent_iff :
    Answers entries (.concluded ⟨.passed, some "no 'security_rule' declared"⟩) ↔
      entries = [] := by
  constructor
  · intro answers
    cases answers with
    | absent empty _ => exact empty
    | stray _ told => cases told
    | exposed _ _ _ told => exact nomatch outcome_eq_of_concluded_eq told
    | harmless _ _ _ told => cases told
  · intro empty
    exact .absent empty rfl

theorem answers_faulted_iff {fault : RuleFault} :
    Answers entries (.faulted fault) ↔
      ∃ position, Value.FirstStrayAt entries position ∧
        fault = .strayEntry "security_rule" position := by
  constructor
  · intro answers
    cases answers with
    | stray stray told =>
      cases told
      exact ⟨_, stray, rfl⟩
    | absent _ told | exposed _ _ _ told | harmless _ _ _ told => cases told
  · rintro ⟨position, stray, rfl⟩
    exact .stray stray rfl

theorem answers_failed_iff {message : String} :
    Answers entries (.concluded (.failed message)) ↔
      ∃ label source, FirstExposure entries label source ∧
        message = "security_rule " ++ label ++ " allows inbound port 22 from '" ++ source ++
          "'" := by
  constructor
  · intro answers
    cases answers with
    | absent _ told => exact nomatch outcome_eq_of_concluded_eq told
    | stray _ told => cases told
    | exposed blocks harmless exposing told =>
      obtain ⟨exposes, first⟩ := exposingSource?_eq_some_iff_isFirstSource.1 exposing
      simp only [exposes_iff] at harmless
      cases told
      exact ⟨_, _, .intro blocks harmless exposes (label_eq_iff.1 rfl) first,
        exposureReason_eq _ _ _⟩
    | harmless _ _ _ told => exact nomatch outcome_eq_of_concluded_eq told
  · rintro ⟨label, source, ⟨blocks, harmless, exposing, labelled, first⟩, rfl⟩
    simp only [← exposes_iff] at harmless
    refine .exposed blocks harmless
      (exposingSource?_eq_some_iff_isFirstSource.2 ⟨exposing, first⟩) ?_
    rw [exposureReason_eq, label_eq_iff.2 labelled]

theorem answers_passed_iff :
    Answers entries (.concluded .passed) ↔
      entries ≠ [] ∧
        ∀ entry ∈ entries, ∃ securityRule, entry = .block securityRule ∧
          ¬ IsExposing securityRule := by
  constructor
  · intro answers
    cases answers with
    | absent _ told => cases told
    | stray _ told => cases told
    | exposed _ _ _ told => exact nomatch outcome_eq_of_concluded_eq told
    | harmless blocks nonempty harmless _ =>
      rw [blocks]
      refine ⟨by simpa using nonempty, fun entry member => ?_⟩
      obtain ⟨securityRule, known, rfl⟩ := List.mem_map.1 member
      exact ⟨securityRule, rfl, fun exposing => harmless _ known (exposes_iff.2 exposing)⟩
  · rintro ⟨nonempty, harmless⟩
    obtain ⟨blocks, rfl⟩ := Value.forall_isBlock_iff.1 fun entry member =>
      let ⟨securityRule, same, _⟩ := harmless entry member
      ⟨securityRule, same⟩
    refine .harmless rfl (by simpa using nonempty) (fun securityRule member exposes => ?_) rfl
    obtain ⟨_, ⟨⟩, notExposing⟩ := harmless _ (List.mem_map_of_mem member)
    exact notExposing (exposes_iff.1 exposes)

/-- There is a first exposing security rule iff the entries are all nested blocks and one of them is
exposing. -/
theorem exists_firstExposure_iff :
    (∃ label source, FirstExposure entries label source) ↔
      (∀ entry ∈ entries, entry.IsBlock) ∧
        ∃ securityRule, .block securityRule ∈ entries ∧ IsExposing securityRule := by
  constructor
  · rintro ⟨_, _, ⟨blocks, _, exposing, _, _⟩⟩
    exact ⟨Value.forall_isBlock_iff.2 ⟨_, blocks⟩, _, by simp [blocks], exposing⟩
  · rintro ⟨blocks, securityRule, member, exposing⟩
    obtain ⟨securityRules, rfl⟩ := Value.forall_isBlock_iff.1 blocks
    obtain ⟨_, known, ⟨⟩⟩ := List.mem_map.1 member
    rcases exists_first_or_forall_not securityRules with
      ⟨before, first, after, source, rfl, harmless, found⟩ | none
    · simp only [exposes_iff] at harmless
      obtain ⟨exposes, isFirst⟩ := exposingSource?_eq_some_iff_isFirstSource.1 found
      exact ⟨_, source, .intro rfl harmless exposes (label_eq_iff.1 rfl) isFirst⟩
    · exact absurd (exposes_iff.2 exposing) (none _ known)

/-- What is replied to a group that declares some entries under `security_rule`. -/
structure Decides (entries : List Value) (reply : Reply) : Prop where
  /-- A group without entries passes for that reason. -/
  absent : reply = .concluded ⟨.passed, some "no 'security_rule' declared"⟩ ↔ entries = []
  /-- A group is not judged iff one of its entries is no nested block. -/
  faults : (∃ fault, reply = .faulted fault) ↔ ∃ entry ∈ entries, ¬ entry.IsBlock
  /-- The complaint tells the position of the first such entry. -/
  complaint : ∀ fault, reply = .faulted fault ↔
    ∃ position, Value.FirstStrayAt entries position ∧
      fault = .strayEntry "security_rule" position
  /-- A group fails iff its entries are nested blocks and one of them is exposing. -/
  fails : (∃ message, reply = .concluded (.failed message)) ↔
    (∀ entry ∈ entries, entry.IsBlock) ∧
      ∃ securityRule, .block securityRule ∈ entries ∧ IsExposing securityRule
  /-- The reason tells of the first exposing one, and of its first internet source. -/
  reason : ∀ message, reply = .concluded (.failed message) ↔
    ∃ label source, FirstExposure entries label source ∧
      message = "security_rule " ++ label ++ " allows inbound port 22 from '" ++ source ++ "'"
  /-- A group passes without remarks iff it has entries and they are all harmless nested blocks. -/
  passes : reply = .concluded .passed ↔
    entries ≠ [] ∧
      ∀ entry ∈ entries, ∃ securityRule, entry = .block securityRule ∧ ¬ IsExposing securityRule

end

theorem decides_judge (group : Attributes) :
    Decides (group.get securityRuleAttribute) (judge group) where
  absent := judge_eq_iff.trans answers_absent_iff
  complaint _ := judge_eq_iff.trans answers_faulted_iff
  reason _ := judge_eq_iff.trans answers_failed_iff
  passes := judge_eq_iff.trans answers_passed_iff
  faults := by
    simp only [judge_eq_iff, answers_faulted_iff, ← Value.exists_firstStrayAt_iff]
    constructor
    · rintro ⟨_, position, stray, _⟩
      exact ⟨position, stray⟩
    · rintro ⟨position, stray⟩
      exact ⟨_, position, stray, rfl⟩
  fails := by
    simp only [judge_eq_iff, answers_failed_iff, ← exists_firstExposure_iff]
    constructor
    · rintro ⟨_, label, source, first, _⟩
      exact ⟨label, source, first⟩
    · rintro ⟨label, source, first⟩
      exact ⟨_, label, source, first, rfl⟩

/-- A group of nothing but nested blocks fails iff one of them is exposing, and passes otherwise. -/
theorem Decides.outcome_eq {entries : List Value} {reply : Reply} (decides : Decides entries reply)
    (blocks : ∀ entry ∈ entries, entry.IsBlock) :
    (reply.evaluation.outcome = .failed ∧
        ∃ securityRule, .block securityRule ∈ entries ∧ IsExposing securityRule) ∨
      (reply.evaluation.outcome = .passed ∧
        ¬ ∃ securityRule, .block securityRule ∈ entries ∧ IsExposing securityRule) := by
  by_cases exposing : ∃ securityRule, .block securityRule ∈ entries ∧ IsExposing securityRule
  · obtain ⟨message, rfl⟩ := decides.fails.2 ⟨blocks, exposing⟩
    exact .inl ⟨rfl, exposing⟩
  · refine .inr ⟨?_, exposing⟩
    by_cases empty : entries = []
    · rw [decides.absent.2 empty]
      rfl
    · have passes := decides.passes.2 ⟨empty, fun entry member => by
        obtain ⟨securityRule, rfl⟩ := blocks entry member
        exact ⟨securityRule, rfl, fun exposes => exposing ⟨securityRule, member, exposes⟩⟩⟩
      rw [passes]
      rfl

/-- The rule replies to every group what its entries call for, whichever kinds of resource it is
for. If they are nothing but nested blocks, their order does not change the outcome. -/
theorem evaluate_decides (kinds : List String) (group : Attributes) :
    (group.get "security_rule" = [] ↔
        group.lookup "security_rule" = none ∨ group.lookup "security_rule" = some []) ∧
      Decides (group.get "security_rule") ((ruleFor kinds).evaluate group) ∧
      ∀ other : Attributes, (∀ entry ∈ group.get "security_rule", entry.IsBlock) →
        (group.get "security_rule").Perm (other.get "security_rule") →
          ((ruleFor kinds).evaluate other).evaluation.outcome =
            ((ruleFor kinds).evaluate group).evaluation.outcome := by
  refine ⟨Attributes.get_eq_nil_iff, decides_judge group, fun other blocks permuted => ?_⟩
  have same (entry : Value) :
      entry ∈ other.get "security_rule" ↔ entry ∈ group.get "security_rule" :=
    permuted.mem_iff.symm
  have otherBlocks : ∀ entry ∈ other.get "security_rule", entry.IsBlock :=
    fun entry member => blocks entry ((same entry).1 member)
  have outcome := (decides_judge group).outcome_eq blocks
  have otherOutcome := (decides_judge other).outcome_eq otherBlocks
  simp only [securityRuleAttribute, same] at outcome otherOutcome
  rcases outcome with ⟨failed, exposing⟩ | ⟨passed, harmless⟩
  · rcases otherOutcome with ⟨otherFailed, _⟩ | ⟨_, otherHarmless⟩
    · exact otherFailed.trans failed.symm
    · exact absurd exposing otherHarmless
  · rcases otherOutcome with ⟨_, otherExposing⟩ | ⟨otherPassed, _⟩
    · exact absurd otherExposing harmless
    · exact otherPassed.trans passed.symm

/-- A harmless block and one that exposes the port through nested lists, in either order. -/
theorem evaluate_decides_of_reordered_blocks :
    let harmless : Attributes := [("access", [.text "Allow"]), ("direction", [.text "Outbound"])]
    let exposing : Attributes :=
      [("access", [.text "allow"]),
        ("destination_port_ranges", [.list [.int 443, .list [.text "0-100"]]]),
        ("direction", [.text " INBOUND"]),
        ("source_address_prefix", [.text "10.0.0.0/8"]),
        ("source_address_prefixes", [.list [.text "Any", .text "*"]])]
    let group : Attributes := [("security_rule", [.block harmless, .block exposing])]
    let other : Attributes := [("security_rule", [.block exposing, .block harmless])]
    (∀ entry ∈ group.get "security_rule", entry.IsBlock) ∧
      (group.get "security_rule").Perm (other.get "security_rule") ∧
      (ruleFor ["network"]).evaluate group =
        .concluded (.failed "security_rule #2 allows inbound port 22 from 'Any'") ∧
      ((ruleFor ["network"]).evaluate other).evaluation.outcome = .failed := by
  intro harmless exposing group other
  have blocks : ∀ entry ∈ group.get "security_rule", entry.IsBlock :=
    Value.forall_isBlock_iff.2 ⟨[harmless, exposing], rfl⟩
  have permuted : (group.get "security_rule").Perm (other.get "security_rule") :=
    List.Perm.swap _ _ []
  have failed : (ruleFor ["network"]).evaluate group =
      .concluded (.failed "security_rule #2 allows inbound port 22 from 'Any'") := by
    decide +kernel
  obtain ⟨_, _, reordered⟩ := evaluate_decides ["network"] group
  refine ⟨blocks, permuted, failed, ?_⟩
  rw [reordered other blocks permuted, failed]
  rfl

end NetworkExposure

end ConfigAudit
