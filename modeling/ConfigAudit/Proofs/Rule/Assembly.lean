import ConfigAudit.Proofs.Rule.Catalog
import ConfigAudit.Proofs.Text.Trimming

/-!
# Which rules make a rule set

Rules make a rule set iff each is well described and no two share an identifier. Otherwise the first
rule that offends is told, and a defect of its description before an identifier that is taken.
Settings choose among the rules beforehand, so a disabled rule never offends:
`Catalog.assembly_stops_at_first_offence`.
-/

namespace ConfigAudit

namespace Text

/-- There is nothing but blank characters in a text. -/
def IsBlank (text : String) : Prop :=
  ∀ character ∈ text.toList, isBlank character = true

/-- Nothing is left of a text after trimming it iff it is blank. -/
theorem isBlankText_iff {text : String} : isBlankText text = true ↔ IsBlank text := by
  rw [isBlankText, List.isEmpty_iff, trimChars_eq_nil_iff, IsBlank]

instance : DecidablePred IsBlank := fun _ => decidable_of_iff _ isBlankText_iff

end Text

namespace InfoFlaw

/-- The place of a defect in the order in which defects are told. -/
def rank : InfoFlaw → Nat
  | blankId => 0
  | blankName => 1
  | noKinds => 2
  | blankKind => 3

theorem eq_of_rank_eq {flaw other : InfoFlaw} (same : flaw.rank = other.rank) : flaw = other := by
  cases flaw <;> cases other <;> first | rfl | cases same

end InfoFlaw

namespace RuleInfo

/-- A description has a defect, whatever else is wrong with it. -/
def Has (info : RuleInfo) : InfoFlaw → Prop
  | .blankId => Text.IsBlank info.id
  | .blankName => Text.IsBlank info.name
  | .noKinds => ∃ kinds, info.kinds = .only kinds ∧ kinds.keys = []
  | .blankKind => ∃ kinds, info.kinds = .only kinds ∧ ∃ kind ∈ kinds.keys, Text.IsBlank kind

/-- A description has a defect and none that comes before it. -/
structure HasFirst (info : RuleInfo) (flaw : InfoFlaw) : Prop where
  has : info.Has flaw
  first : ∀ other, other.rank < flaw.rank → ¬ info.Has other

/-- A description has an identifier and a name, and the rule is universal or has kinds, none of them
blank. -/
structure IsWellDescribed (info : RuleInfo) : Prop where
  id : ¬ Text.IsBlank info.id
  name : ¬ Text.IsBlank info.name
  kinds : info.kinds = .universal ∨
    ∃ kinds, info.kinds = .only kinds ∧ kinds.keys ≠ [] ∧ ∀ kind ∈ kinds.keys, ¬ Text.IsBlank kind

/-- A description with a defect is not well described. -/
theorem IsWellDescribed.not_has {info : RuleInfo} (well : info.IsWellDescribed) (flaw : InfoFlaw) :
    ¬ info.Has flaw := by
  cases flaw with
  | blankId => exact well.id
  | blankName => exact well.name
  | noKinds =>
    rintro ⟨kinds, only, none⟩
    rcases well.kinds with universal | ⟨_, known, some, _⟩
    · cases only.symm.trans universal
    · cases only.symm.trans known
      exact some none
  | blankKind =>
    rintro ⟨kinds, only, kind, member, blank⟩
    rcases well.kinds with universal | ⟨_, known, _, notBlank⟩
    · cases only.symm.trans universal
    · cases only.symm.trans known
      exact notBlank kind member blank

/-- Two defects of a description cannot both come first. -/
theorem HasFirst.eq {info : RuleInfo} {flaw other : InfoFlaw} (first : info.HasFirst flaw)
    (otherFirst : info.HasFirst other) : flaw = other := by
  have notLater : ¬ flaw.rank < other.rank := fun lower => otherFirst.first flaw lower first.has
  have notEarlier : ¬ other.rank < flaw.rank := fun lower =>
    first.first other lower otherFirst.has
  exact InfoFlaw.eq_of_rank_eq (by omega)

/-- A description is looked through up to its first defect. -/
theorem hasFirst_or_isWellDescribed (info : RuleInfo) :
    (∃ flaw, info.flaw? = some flaw ∧ info.HasFirst flaw) ∨
      info.flaw? = none ∧ info.IsWellDescribed := by
  simp only [flaw?, Text.isBlankText_iff]
  by_cases blankId : Text.IsBlank info.id
  · exact .inl ⟨.blankId, if_pos blankId, blankId, fun _ lower => absurd lower (Nat.not_lt_zero _)⟩
  by_cases blankName : Text.IsBlank info.name
  · refine .inl ⟨.blankName, by rw [if_neg blankId, if_pos blankName], blankName, ?_⟩
    rintro (_ | _ | _ | _) lower
    case blankId => exact blankId
    all_goals exact absurd lower (by decide)
  rw [if_neg blankId, if_neg blankName]
  cases kinds : info.kinds with
  | universal => exact .inr ⟨rfl, blankId, blankName, .inl kinds⟩
  | only named =>
    simp only [ResourceKinds.flaw?, List.isEmpty_iff, List.any_eq_true, Text.isBlankText_iff]
    by_cases none : named.keys = []
    · refine .inl ⟨.noKinds, if_pos none, ⟨named, kinds, none⟩, ?_⟩
      rintro (_ | _ | _ | _) lower
      case blankId => exact blankId
      case blankName => exact blankName
      all_goals exact absurd lower (by decide)
    by_cases blankKind : ∃ kind ∈ named.keys, Text.IsBlank kind
    · refine .inl ⟨.blankKind, ?_, ⟨named, kinds, blankKind⟩, ?_⟩
      · rw [if_neg none, if_pos blankKind]
      rintro (_ | _ | _ | _) lower
      case blankId => exact blankId
      case blankName => exact blankName
      case noKinds =>
        rintro ⟨other, same, noneOther⟩
        cases kinds.symm.trans same
        exact none noneOther
      case blankKind => exact absurd lower (by decide)
    · refine .inr ⟨?_, blankId, blankName, .inr ⟨named, kinds, none, ?_⟩⟩
      · rw [if_neg none, if_neg blankKind]
      · exact fun kind member blank => blankKind ⟨kind, member, blank⟩

/-- What is told of a description is its first defect. -/
theorem flaw?_eq_some_iff {info : RuleInfo} {flaw : InfoFlaw} :
    info.flaw? = some flaw ↔ info.HasFirst flaw := by
  rcases info.hasFirst_or_isWellDescribed with ⟨first, told, hasFirst⟩ | ⟨untold, well⟩
  · rw [told, Option.some_inj]
    exact ⟨fun same => same ▸ hasFirst, hasFirst.eq⟩
  · rw [untold]
    exact ⟨nofun, fun hasFirst => absurd hasFirst.has (well.not_has flaw)⟩

/-- Nothing is told of a description iff it is well described. -/
theorem flaw?_eq_none_iff {info : RuleInfo} : info.flaw? = none ↔ info.IsWellDescribed := by
  rcases info.hasFirst_or_isWellDescribed with ⟨first, told, hasFirst⟩ | ⟨untold, well⟩
  · rw [told]
    exact ⟨nofun, fun well => absurd hasFirst.has (well.not_has first)⟩
  · exact iff_of_true untold well

end RuleInfo

namespace RuleSet

/-- Rules that make a rule set. -/
structure AreAdmissible (rules : List Rule) : Prop where
  wellDescribed : ∀ rule ∈ rules, rule.info.IsWellDescribed
  distinct : (rules.map (·.info.id)).Nodup

/-- The reason why a rule offends after others. -/
inductive Offends (earlier : List Rule) (rule : Rule) : RuleSetError → Prop where
  | invalid {flaw : InfoFlaw} (first : rule.info.HasFirst flaw) :
      Offends earlier rule (.invalidInfo rule.info.id flaw)
  | duplicate (wellDescribed : rule.info.IsWellDescribed)
      (taken : rule.info.id ∈ earlier.map (·.info.id)) :
      Offends earlier rule (.duplicateId rule.info.id)

/-- A registration is refused iff the rule offends after those of the set. -/
theorem Indexed.register_eq_error_iff {set : RuleSet} (indexed : set.Indexed) {rule : Rule}
    {error : RuleSetError} :
    RuleSet.register set rule = .error error ↔ Offends set.rules rule error := by
  unfold RuleSet.register
  cases described : rule.info.flaw? with
  | some flaw =>
    have first := RuleInfo.flaw?_eq_some_iff.1 described
    constructor
    · rintro ⟨⟩
      exact .invalid first
    · rintro (⟨otherFirst⟩ | ⟨wellDescribed, _⟩)
      · rw [first.eq otherFirst]
      · exact absurd first.has (wellDescribed.not_has flaw)
  | none =>
    have wellDescribed := RuleInfo.flaw?_eq_none_iff.1 described
    simp only [indexed.contains_ids]
    constructor
    · intro refused
      split at refused
      case isTrue taken =>
        cases refused
        exact .duplicate wellDescribed taken
      case isFalse => cases refused
    · rintro (⟨first⟩ | ⟨_, taken⟩)
      · exact absurd first.has (wellDescribed.not_has _)
      · exact if_pos taken

/-- The rules of a set are admissible, and admissible rules make a set. -/
theorem exists_ofRules_eq_ok_iff {rules : List Rule} :
    (∃ set, ofRules rules = .ok set) ↔ AreAdmissible rules := by
  constructor
  · rintro ⟨set, built⟩
    have flawless := isFlawless_of_ofRules built
    obtain ⟨indexed, rfl⟩ := indexed_of_ofRules built
    exact ⟨fun rule member => RuleInfo.flaw?_eq_none_iff.1 (flawless rule member),
      indexed.distinct⟩
  · rintro ⟨wellDescribed, distinct⟩
    exact ⟨_, ofRules_eq_ok
      (fun rule member => RuleInfo.flaw?_eq_none_iff.2 (wellDescribed rule member)) distinct⟩

/-- Rules make no set iff one of them offends after admissible ones. -/
theorem ofRules_eq_error_iff {rules : List Rule} {error : RuleSetError} :
    ofRules rules = .error error ↔
      ∃ before rule after, rules = before ++ rule :: after ∧
        AreAdmissible before ∧ Offends before rule error := by
  rw [ofRules, foldlM_eq_error_iff]
  constructor
  · rintro ⟨before, rule, after, set, parts, built, refused⟩
    have admissible := exists_ofRules_eq_ok_iff.1 ⟨set, built⟩
    obtain ⟨indexed, rfl⟩ := indexed_of_ofRules built
    exact ⟨set.rules, rule, after, parts, admissible, indexed.register_eq_error_iff.1 refused⟩
  · rintro ⟨before, rule, after, parts, admissible, offends⟩
    obtain ⟨set, built⟩ := exists_ofRules_eq_ok_iff.2 admissible
    obtain ⟨indexed, rfl⟩ := indexed_of_ofRules built
    exact ⟨set.rules, rule, after, set, parts, built, indexed.register_eq_error_iff.2 offends⟩

end RuleSet

namespace Catalog

/-- Rules make a rule set iff they are admissible, and the first one that offends is told otherwise.
The rule set of a run is made in this way of the enabled rules alone, each of them with its severity
changed and nothing else. -/
theorem assembly_stops_at_first_offence (rules : List Rule) :
    ((∃ set, RuleSet.ofRules rules = .ok set) ↔ RuleSet.AreAdmissible rules) ∧
      (∀ error, RuleSet.ofRules rules = .error error ↔
        ∃ before rule after, rules = before ++ rule :: after ∧
          RuleSet.AreAdmissible before ∧ RuleSet.Offends before rule error) ∧
      ∀ settings, ruleSet settings rules =
        RuleSet.ofRules
          ((rules.filter fun rule => settings.isEnabled rule.info.id).map fun rule =>
            { rule with
              info := { rule.info with
                severity := (settings.severity? rule.info.id).getD rule.info.severity } }) := by
  refine ⟨RuleSet.exists_ofRules_eq_ok_iff, fun error => RuleSet.ofRules_eq_error_iff, ?_⟩
  intro settings
  rw [ruleSet_eq_ofRules, select, funext (adjust_eq_withSeverity settings)]
  rfl

end Catalog

end ConfigAudit
