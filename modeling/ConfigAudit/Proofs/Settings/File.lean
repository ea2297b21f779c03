import ConfigAudit.Proofs.Toml.Canonical
import ConfigAudit.Settings.File

/-!
# The tables of rules in a settings file

A file that is read has its tables of rules in the order of the identifiers, one for each rule:
`SettingsFile.sorted_rules_of_read`.
-/

namespace ConfigAudit

namespace Toml

theorem refuse_ne_ok {Result : Type} {value : Toml} {expected : Expected} {result : Result} :
    value.refuse expected ≠ .ok result := by
  intro accepted
  obtain ⟨_, _, thrown⟩ := bind_eq_ok.1 accepted
  cases thrown

end Toml

/-- Steps that leave the keys of items alone leave their order alone. -/
theorem Members.Sorted.of_mapM {Error Value Result : Type}
    {step : String × Value → Except Error (String × Result)}
    (keeps : ∀ {item result}, step item = .ok result → result.1 = item.1)
    {items : List (String × Value)} {results : List (String × Result)}
    (sorted : Members.Sorted items) (mapped : items.mapM step = .ok results) :
    Members.Sorted results := by
  have keys : results.map Prod.fst = items.map Prod.fst := by
    induction items generalizing results with
    | nil =>
      cases mapped
      rfl
    | cons item rest inductionHypothesis =>
      rw [List.mapM_cons] at mapped
      obtain ⟨result, stepped, continued⟩ := bind_eq_ok.1 mapped
      obtain ⟨others, mappedRest, ⟨⟩⟩ := bind_eq_ok.1 continued
      rw [List.map_cons, List.map_cons, keeps stepped,
        inductionHypothesis (List.pairwise_cons.1 sorted).2 mappedRest]
  have ascending : (items.map Prod.fst).Pairwise (· < ·) := List.pairwise_map.2 sorted
  exact List.pairwise_map.1 (keys ▸ ascending)

/-- The tables of rules are read in the order of their keys. -/
theorem RuleSettings.sorted_of_tableOfToml {value : Toml} (canonical : value.Canonical)
    {rules : List (String × RuleSettings)} (read : tableOfToml value = .ok rules) :
    Members.Sorted rules := by
  unfold tableOfToml at read
  split at read
  case h_1 members =>
    cases canonical with | table sorted each =>
    refine sorted.of_mapM (fun {item result} stepped => ?_) read
    obtain ⟨_, _, ⟨⟩⟩ := bind_eq_ok.1 stepped
    rfl
  case h_2 => exact absurd read Toml.refuse_ne_ok

namespace SettingsFile

theorem sorted_rules_of_readMember {file next : SettingsFile} {key : String} {value : Toml}
    (canonical : value.Canonical) (sorted : Members.Sorted file.rules)
    (read : file.readMember key value = .ok next) : Members.Sorted next.rules := by
  unfold readMember at read
  split at read
  case h_5 =>
    obtain ⟨rules, ofTables, ⟨⟩⟩ := bind_eq_ok.1 read
    exact RuleSettings.sorted_of_tableOfToml canonical ofTables
  case h_7 =>
    cases passed : value.pass <;> cases passed ▸ read
    exact sorted
  all_goals
    obtain ⟨_, _, ⟨⟩⟩ := bind_eq_ok.1 read
    exact sorted

/-- A file that is read has its tables of rules in the order of the identifiers. -/
theorem sorted_rules_of_read {text : String} {file : SettingsFile}
    (readFile : SettingsFile.read text = .ok file) : Members.Sorted file.rules := by
  unfold SettingsFile.read at readFile
  split at readFile
  · cases readFile
    exact Members.sorted_nil
  · unfold parse at readFile
    split at readFile
    case h_1 => cases readFile
    case h_2 members parsed =>
      cases Toml.canonical_of_parse? parsed with | table _ each =>
      have kept (member : String × Toml) (ofMembers : member ∈ members)
          {before after : SettingsFile} (sorted : Members.Sorted before.rules)
          (read : before.readMember member.1 member.2 = .ok after) : Members.Sorted after.rules :=
        sorted_rules_of_readMember (each member ofMembers) sorted read
      exact holds_of_foldlM_eq_ok_of_mem kept Members.sorted_nil (mapError_eq_ok.1 readFile)

end SettingsFile

end ConfigAudit
