import ConfigAudit.Proofs.Tree.Blocks
import ConfigAudit.Rule.NetworkExposure

/-!
# What the rule on network exposure decides

There are four kinds of groups, told apart by the entries under their attribute: those without one,
those with an entry that is no nested block, those that expose the port of the secure shell, and the
harmless ones. `NetworkExposure.judge_eq_iff` says what is replied to each of them.
-/

namespace ConfigAudit

namespace NetworkExposure

/-- A security rule lets inbound traffic to a port through from the whole internet. -/
structure Exposes (port : Nat) (securityRule : Attributes) : Prop where
  inbound : reads securityRule "direction" "Inbound" = true
  allowed : reads securityRule "access" "Allow" = true
  covered : ∃ specification ∈ portSpecifications securityRule, portCovers specification port = true
  unlimited : ∃ source ∈ sources securityRule, isInternet source = true

theorem isSome_exposingSource?_iff {port : Nat} {securityRule : Attributes} :
    (exposingSource? port securityRule).isSome = true ↔ Exposes port securityRule := by
  unfold exposingSource? admitsInbound
  constructor
  · intro found
    split at found
    case isTrue admitted =>
      simp only [Bool.and_eq_true, List.any_eq_true] at admitted
      obtain ⟨⟨inbound, allowed⟩, covered⟩ := admitted
      exact ⟨inbound, allowed, covered, by simpa using found⟩
    case isFalse => exact nomatch found
  · rintro ⟨inbound, allowed, covered, unlimited⟩
    rw [if_pos]
    · simpa using unlimited
    · simp only [Bool.and_eq_true, List.any_eq_true]
      exact ⟨⟨inbound, allowed⟩, covered⟩

theorem exposingSource?_eq_none_iff {port : Nat} {securityRule : Attributes} :
    exposingSource? port securityRule = none ↔ ¬ Exposes port securityRule := by
  rw [← isSome_exposingSource?_iff, Option.not_isSome_iff_eq_none]

/-- The source that is told of a security rule is the first one that is the whole internet. -/
theorem exposingSource?_eq_some_iff {port : Nat} {securityRule : Attributes} {source : String} :
    exposingSource? port securityRule = some source ↔
      Exposes port securityRule ∧ (sources securityRule).find? isInternet = some source := by
  constructor
  · intro found
    refine ⟨isSome_exposingSource?_iff.1 (Option.isSome_of_eq_some found), ?_⟩
    unfold exposingSource? at found
    split at found
    case isTrue => exact found
    case isFalse => exact nomatch found
  · rintro ⟨exposes, first⟩
    obtain ⟨told, found⟩ := Option.isSome_iff_exists.1 (isSome_exposingSource?_iff.2 exposes)
    rw [found, ← first]
    unfold exposingSource? at found
    split at found
    case isTrue => exact found.symm
    case isFalse => exact nomatch found

theorem firstExposure?_eq_none_iff {securityRules : List Attributes} :
    firstExposure? securityRules = none ↔
      ∀ securityRule ∈ securityRules, ¬ Exposes sshPort securityRule := by
  simp only [firstExposure?, List.findSome?_eq_none_iff, Option.map_eq_none_iff,
    exposingSource?_eq_none_iff]
  constructor
  · intro harmless securityRule member
    obtain ⟨index, within, rfl⟩ := List.mem_iff_getElem.1 member
    exact harmless (securityRules[index], index)
      (List.mem_zipIdx_iff_getElem?.2 (List.getElem?_eq_getElem within))
  · intro harmless entry member
    exact harmless entry.1 (List.fst_mem_of_mem_zipIdx member)

/-- The exposing rule that is found is the first one. -/
theorem firstExposure?_append {before after : List Attributes} {securityRule : Attributes}
    {source : String} (harmless : ∀ earlier ∈ before, ¬ Exposes sshPort earlier)
    (exposing : exposingSource? sshPort securityRule = some source) :
    firstExposure? (before ++ securityRule :: after) =
      some (securityRule, before.length, source) := by
  have nowhere := firstExposure?_eq_none_iff.2 harmless
  unfold firstExposure? at nowhere ⊢
  rw [List.zipIdx_append, List.findSome?_append, nowhere, Option.none_or, List.zipIdx_cons,
    List.findSome?_cons]
  simp only [exposing, Option.map_some, Nat.zero_add]

/-- Either no rule of a list exposes the port, or one of them does and none before it. -/
theorem exists_first_or_forall_not (securityRules : List Attributes) :
    (∃ before securityRule after source, securityRules = before ++ securityRule :: after ∧
        (∀ earlier ∈ before, ¬ Exposes sshPort earlier) ∧
        exposingSource? sshPort securityRule = some source) ∨
      ∀ securityRule ∈ securityRules, ¬ Exposes sshPort securityRule := by
  induction securityRules with
  | nil => exact .inr nofun
  | cons securityRule securityRules inductionHypothesis =>
    cases exposing : exposingSource? sshPort securityRule with
    | some source => exact .inl ⟨[], securityRule, securityRules, source, rfl, nofun, exposing⟩
    | none =>
      have harmless := exposingSource?_eq_none_iff.1 exposing
      rcases inductionHypothesis with ⟨before, first, after, source, rfl, earlier, found⟩ | later
      · exact .inl ⟨securityRule :: before, first, after, source, rfl,
          List.forall_mem_cons.2 ⟨harmless, earlier⟩, found⟩
      · exact .inr (List.forall_mem_cons.2 ⟨harmless, later⟩)

/-- The failure of a group in which a security rule is the first to expose the port. -/
def exposureReason (securityRule : Attributes) (index : Nat) (source : String) : String :=
  "security_rule " ++ label securityRule index ++ " allows inbound port " ++
    Numeral.text sshPort ++ " from '" ++ source ++ "'"

/-- The reply to a group with some entries under its attribute. -/
inductive Answers (entries : List Value) (reply : Reply) : Prop where
  | absent (empty : entries = [])
      (told : reply = .concluded (.absent .defaultPass securityRuleAttribute))
  | stray {position : Nat} (stray : Value.FirstStrayAt entries position)
      (told : reply = .faulted (.strayEntry securityRuleAttribute position))
  | exposed {before after : List Attributes} {securityRule : Attributes} {source : String}
      (blocks : entries = (before ++ securityRule :: after).map .block)
      (harmless : ∀ earlier ∈ before, ¬ Exposes sshPort earlier)
      (exposing : exposingSource? sshPort securityRule = some source)
      (told : reply =
        .concluded (.failed (exposureReason securityRule before.length source)))
  | harmless {securityRules : List Attributes} (blocks : entries = securityRules.map .block)
      (nonempty : securityRules ≠ [])
      (harmless : ∀ securityRule ∈ securityRules, ¬ Exposes sshPort securityRule)
      (told : reply = .concluded .passed)

/-- The judgement on a group whose attribute has entries. -/
theorem judge_of_ne_nil {group : Attributes} (declared : group.get securityRuleAttribute ≠ []) :
    judge group =
      match group.blocks? securityRuleAttribute with
      | .error fault => .faulted fault
      | .ok securityRules =>
        match firstExposure? securityRules with
        | none => .concluded .passed
        | some (securityRule, index, source) =>
          .concluded (.failed (exposureReason securityRule index source)) := by
  have present : (!group.contains securityRuleAttribute) ≠ true := by
    simpa [Attributes.contains] using declared
  rw [judge, if_neg present]
  rfl

theorem judge_of_answers {group : Attributes} {reply : Reply}
    (answers : Answers (group.get securityRuleAttribute) reply) : judge group = reply := by
  cases answers with
  | absent empty told =>
    rw [told, judge, Attributes.contains, empty]
    rfl
  | stray stray told =>
    obtain ⟨_, _, _, entries, _⟩ := id stray
    rw [told, judge_of_ne_nil (by simp [entries]), Attributes.blocks?_of_firstStrayAt stray]
  | exposed blocks harmless exposing told =>
    rw [told, judge_of_ne_nil (by simp [blocks]), Attributes.blocks?_of_map_block blocks]
    dsimp only
    rw [firstExposure?_append harmless exposing]
  | harmless blocks nonempty harmless told =>
    rw [told, judge_of_ne_nil (by simpa [blocks] using nonempty),
      Attributes.blocks?_of_map_block blocks]
    dsimp only
    rw [firstExposure?_eq_none_iff.2 harmless]

theorem exists_answers (entries : List Value) : ∃ reply, Answers entries reply := by
  rcases Value.exists_blocks_or_exists_firstStrayAt entries with ⟨blocks, rfl⟩ | ⟨_, stray⟩
  · rcases exists_first_or_forall_not blocks with
      ⟨before, securityRule, after, source, rfl, harmless, exposing⟩ | harmless
    · exact ⟨_, .exposed rfl harmless exposing rfl⟩
    · by_cases empty : blocks = []
      · exact ⟨_, .absent (by rw [empty, List.map_nil]) rfl⟩
      · exact ⟨_, .harmless rfl empty harmless rfl⟩
  · exact ⟨_, .stray stray rfl⟩

/-- The judgement on a group is the answer to its entries. -/
theorem judge_eq_iff {group : Attributes} {reply : Reply} :
    judge group = reply ↔ Answers (group.get securityRuleAttribute) reply := by
  refine ⟨fun judged => ?_, judge_of_answers⟩
  obtain ⟨answer, answers⟩ := exists_answers (group.get securityRuleAttribute)
  rw [← judged, judge_of_answers answers]
  exact answers

/-! ## Outcomes -/

/-- A group fails if its entries are all nested blocks and one of them exposes the port. -/
theorem outcome_judge_eq_failed_iff {group : Attributes} :
    (judge group).evaluation.outcome = .failed ↔
      (∀ entry ∈ group.get securityRuleAttribute, entry.block?.isSome = true) ∧
        ∃ entry ∈ group.get securityRuleAttribute, ∃ securityRule,
          entry.block? = some securityRule ∧ Exposes sshPort securityRule := by
  cases judge_eq_iff.1 (rfl : judge group = judge group) with
  | absent empty told =>
    rw [told, empty]
    exact ⟨nofun, fun ⟨_, _, impossible, _⟩ => nomatch impossible⟩
  | stray stray told =>
    rw [told]
    refine ⟨nofun, fun ⟨blocks, _⟩ => ?_⟩
    obtain ⟨entry, member, noBlock⟩ := Value.exists_firstStrayAt_iff.1 ⟨_, stray⟩
    exact absurd (Value.isSome_block?_iff.1 (blocks entry member)) noBlock
  | exposed blocks _ exposing told =>
    rw [told, blocks]
    refine iff_of_true rfl ⟨?_, _, List.mem_map_of_mem (by simp), _, rfl,
      (exposingSource?_eq_some_iff.1 exposing).1⟩
    rintro _ member
    obtain ⟨_, _, rfl⟩ := List.mem_map.1 member
    rfl
  | harmless blocks _ harmless told =>
    rw [told, blocks]
    refine ⟨nofun, ?_⟩
    rintro ⟨_, entry, member, _, block, exposes⟩
    obtain ⟨securityRule, known, rfl⟩ := List.mem_map.1 member
    cases block
    exact absurd exposes (harmless _ known)

/-- A group cannot be judged if one of its entries is no nested block. -/
theorem outcome_judge_eq_unknown_iff {group : Attributes} :
    (judge group).evaluation.outcome = .unknown ↔
      ∃ entry ∈ group.get securityRuleAttribute, entry.block? = none := by
  simp only [Value.block?_eq_none_iff]
  have noStray (blocks : List Attributes) : ¬ ∃ entry ∈ blocks.map Value.block, ¬ entry.IsBlock :=
    fun ⟨entry, member, noBlock⟩ => noBlock (Value.forall_isBlock_iff.2 ⟨blocks, rfl⟩ entry member)
  cases judge_eq_iff.1 (rfl : judge group = judge group) with
  | absent empty told =>
    rw [told, empty]
    exact iff_of_false nofun (noStray [])
  | stray stray told =>
    rw [told]
    exact iff_of_true rfl (Value.exists_firstStrayAt_iff.1 ⟨_, stray⟩)
  | exposed blocks _ _ told =>
    rw [told, blocks]
    exact iff_of_false nofun (noStray _)
  | harmless blocks _ _ told =>
    rw [told, blocks]
    exact iff_of_false nofun (noStray _)

end NetworkExposure

end ConfigAudit
