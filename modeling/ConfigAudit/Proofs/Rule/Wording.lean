import ConfigAudit.Proofs.Report.Lines
import ConfigAudit.Proofs.Rule.NetworkExposure
import ConfigAudit.Proofs.Text.Trimming
import ConfigAudit.Rule.StorageAccount

/-!
# What the reasons of the rules repeat

A reason repeats what was found: the name and a source of a security rule, or the value of an
attribute. Of these, the source cannot have a line that looks like a line of a page, since it is one
of few spellings; the name and the value can (`NetworkExposure.isHarmless_judge`,
`StorageAccount.isHarmless_judgeFirst`).
-/

namespace ConfigAudit

open Page (IsHarmless IsForeign isHarmless_of_isOneLine)

theorem isForeign_quote : IsForeign '\'' where
  noLineFeed := by decide
  notMem mark := by cases mark <;> decide

namespace NetworkExposure

/-- A source that is the whole internet has no characters but blanks and those of its spellings. -/
theorem notMem_of_isInternet {source : String} (unlimited : isInternet source = true)
    {character : Char} (visible : Text.isBlank character = false)
    (foreign : ∀ word ∈ internetSources, character.toLower ∉ word.toList.map Char.toLower) :
    character ∉ source.toList := by
  obtain ⟨word, spelling, same⟩ := List.any_eq_true.1 unlimited
  rw [Text.sameLetters, beq_iff_eq, Text.trim, String.toList_ofList] at same
  intro member
  have trims := Text.trimsTo_trimChars source.toList
  obtain ⟨before, after, parts, blankBefore, blankAfter⟩ := trims.between
  rw [parts, List.mem_append, List.mem_append] at member
  rcases member with member | member | member
  · exact absurd (blankBefore character member) (by simp [visible])
  · exact foreign word spelling (same ▸ List.mem_map_of_mem member)
  · exact absurd (blankAfter character member) (by simp [visible])

/-- No line of a source that is the whole internet starts like a line of a page. -/
theorem isHarmless_of_isInternet {source : String} (unlimited : isInternet source = true) :
    IsHarmless source := by
  intro mark
  have dash : '-' ∉ source.toList := notMem_of_isInternet unlimited (by decide) (by decide)
  have hash : '#' ∉ source.toList := notMem_of_isInternet unlimited (by decide) (by decide)
  have oneLine := mark.lineFeed_notMem_start
  cases mark with
  | verdict => exact Text.furtherCount_of_lacks oneLine (by decide) dash
  | item => exact Text.furtherCount_of_lacks oneLine (by decide) dash
  | heading => exact Text.furtherCount_of_lacks oneLine (by decide) hash

/-- The names of the security rules of a group are harmless, with the blank that is written behind
them. -/
def HasHarmlessNames (group : Attributes) : Prop :=
  ∀ securityRule ∈ group.blocks securityRuleAttribute, ∀ name ∈ securityRule.text? "name",
    IsHarmless (name ++ " ")

instance : DecidablePred HasHarmlessNames := fun group =>
  inferInstanceAs <| Decidable <| ∀ securityRule ∈ group.blocks securityRuleAttribute,
    ∀ name ∈ securityRule.text? "name", IsHarmless (name ++ " ")

theorem isHarmless_label {securityRule : Attributes} (index : Nat)
    (harmless : ∀ name ∈ securityRule.text? "name", IsHarmless (name ++ " ")) :
    IsHarmless (label securityRule index ++ " ") := by
  unfold label
  cases named : securityRule.text? "name" with
  | none =>
    refine isHarmless_of_isOneLine ?_
    simp only [Option.getD_none, Text.isOneLine_append_iff, Text.isOneLine_numeral]
    decide
  | some name => exact harmless name named

/-- The failure of a group repeats the name of a security rule and a source. -/
theorem isHarmless_exposureReason {securityRule : Attributes} {source : String} (index : Nat)
    (harmless : ∀ name ∈ securityRule.text? "name", IsHarmless (name ++ " "))
    (unlimited : isInternet source = true) :
    IsHarmless (exposureReason securityRule index source) := by
  have letter : IsForeign 'a' := ⟨by decide, fun mark => by cases mark <;> decide⟩
  have quoted : IsHarmless (source ++ "'") :=
    (isHarmless_of_isInternet unlimited).before (isHarmless_of_isOneLine (by decide)) rfl
      isForeign_quote
  let port := "allows inbound port " ++ (Numeral.text sshPort ++ " from '")
  have portLine : Text.IsOneLine port := by
    simp only [port, Text.isOneLine_append_iff, Text.isOneLine_numeral, true_and]
    decide
  -- the blank behind the label may complete the start of a line, so it is parted from what follows
  have parts : exposureReason securityRule index source =
      "security_rule " ++ ((label securityRule index ++ " ") ++ (port ++ (source ++ "'"))) := by
    have words : " allows inbound port " = " " ++ "allows inbound port " := by decide
    unfold exposureReason
    rw [words]
    simp only [port, String.append_assoc]
  have first : (port ++ (source ++ "'")).toList.head? = some 'a' := by
    simp only [port, String.toList_append, List.head?_append]
    rfl
  rw [parts]
  exact ((isHarmless_label index harmless).before (quoted.after portLine) first letter).after
    (by decide)

theorem isHarmless_judge {group : Attributes} (harmless : HasHarmlessNames group) :
    ∀ message ∈ (judge group).evaluation.message, IsHarmless message := by
  intro message told
  have answers : Answers (group.get securityRuleAttribute) (judge group) := judge_eq_iff.1 rfl
  cases answers with
  | absent _ reply =>
    rw [reply] at told
    cases told
    exact isHarmless_of_isOneLine (by decide)
  | @stray position _ reply =>
    rw [reply] at told
    cases told
    refine isHarmless_of_isOneLine ?_
    simp only [RuleFault.message, Text.isOneLine_append_iff, Text.isOneLine_numeral]
    decide
  | @exposed before after securityRule source blocks _ exposing reply =>
    rw [reply] at told
    cases told
    have unlimited : isInternet source = true :=
      List.find?_some (exposingSource?_eq_some_iff.1 exposing).2
    refine isHarmless_exposureReason before.length (harmless securityRule ?_) unlimited
    rw [Attributes.blocks, blocks]
    simp [Value.block?]
  | harmless _ _ _ reply =>
    rw [reply] at told
    cases told

end NetworkExposure

namespace Value

/-- A scalar is described by its text between quotes, and any other value by its kind. -/
theorem describe_eq (value : Value) :
    (∃ text, value.scalarText? = some text ∧ value.describe = "'" ++ (text ++ "'")) ∨
      value.scalarText? = none ∧
        value.describe ∈ ["null", "a list", "a map", "a block"] := by
  cases value with
  | null | list | map | block => exact .inr ⟨rfl, by simp [describe]⟩
  | int | float | text => exact .inl ⟨_, rfl, String.append_assoc⟩
  | bool truth => cases truth <;> exact .inl ⟨_, rfl, by decide⟩

theorem isHarmless_describe {value : Value}
    (harmless : ∀ text ∈ value.scalarText?, IsHarmless text) : IsHarmless value.describe := by
  rcases value.describe_eq with ⟨text, read, described⟩ | ⟨_, described⟩
  · rw [described]
    have quoted : IsHarmless (text ++ "'") :=
      (harmless text read).before (isHarmless_of_isOneLine (by decide)) rfl isForeign_quote
    exact quoted.after (by decide)
  · have oneLine : ∀ words ∈ ["null", "a list", "a map", "a block"], Text.IsOneLine words := by
      decide
    exact isHarmless_of_isOneLine (oneLine _ described)

end Value

namespace StorageAccount

/-- A failure of an account repeats the value of the attribute. -/
theorem isHarmless_judgeFirst {name required : String} {isRequired : Value → Bool}
    {account : Attributes} (oneLineName : Text.IsOneLine name)
    (oneLineRequired : Text.IsOneLine required)
    (harmless : ∀ text ∈ account.text? name, IsHarmless text) :
    ∀ message ∈ (judgeFirst name isRequired required account).evaluation.message,
      IsHarmless message := by
  intro message told
  unfold judgeFirst at told
  cases first : account.first? name with
  | none =>
    rw [first] at told
    cases told
    refine isHarmless_of_isOneLine ?_
    simp only [Text.isOneLine_append_iff, oneLineName]
    decide
  | some value =>
    simp only [first] at told
    split at told
    case isTrue => cases told
    case isFalse =>
      cases told
      have ending : IsHarmless ("; expected " ++ required) :=
        isHarmless_of_isOneLine (Text.isOneLine_append_iff.2 ⟨by decide, oneLineRequired⟩)
      have description : IsHarmless value.describe := by
        refine Value.isHarmless_describe fun text read => harmless text ?_
        rw [Attributes.text?, first]
        exact read
      have parts : name ++ " is " ++ value.describe ++ "; expected " ++ required =
          (name ++ " is ") ++ (value.describe ++ ("; expected " ++ required)) := by
        simp only [String.append_assoc]
      have semicolon : IsForeign ';' := ⟨by decide, fun mark => by cases mark <;> decide⟩
      have start : ("; expected " ++ required).toList.head? = some ';' := by
        rw [String.toList_append, List.head?_append]
        rfl
      rw [parts]
      exact (description.before ending start semicolon).after
        (Text.isOneLine_append_iff.2 ⟨oneLineName, by decide⟩)

end StorageAccount

end ConfigAudit
