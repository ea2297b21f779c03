import Mathlib.Algebra.BigOperators.Group.List.Basic
import Mathlib.Data.List.Nodup
import ConfigAudit.Proofs.ResultSet

/-!
# Selections and figures

A selection keeps the entries that it asks for, all of them and in order: `ResultSet.Selects`. When
the entries are dealt out to selections of which each entry meets exactly one, every entry is
counted once, so the figures of the parts add up to those of the whole. `ResultSet.figures_add_up`
collects what is true of the figures and selections of a set that is not too large to be counted.
-/

namespace ConfigAudit

/-! ## Counting by classes -/

section Classes

variable {Class : Type} [DecidableEq Class] {classes : List Class}

theorem sum_map_ite_eq_count (classes : List Class) (item : Class) :
    (classes.map fun known => if item == known then 1 else 0).sum = classes.count item := by
  induction classes with
  | nil => rfl
  | cons known rest inductionHypothesis =>
    rw [List.map_cons, List.sum_cons, inductionHypothesis, List.count_cons, Nat.add_comm]
    simp only [BEq.comm]

/-- If all items belong to distinct classes, there are as many in these together as there are. -/
theorem sum_count_eq_length (distinct : classes.Nodup) (items : List Class)
    (covered : ∀ item ∈ items, item ∈ classes) :
    (classes.map items.count).sum = items.length := by
  induction items with
  | nil => simp
  | cons item rest inductionHypothesis =>
    obtain ⟨coveredFirst, coveredRest⟩ := List.forall_mem_cons.1 covered
    have once : classes.count item = 1 := List.count_eq_one_of_mem distinct coveredFirst
    simp only [List.count_cons, List.sum_map_add, inductionHypothesis coveredRest,
      sum_map_ite_eq_count, once, List.length_cons]

end Classes

namespace Severity

theorem le_trans {least middle greatest : Severity} (below : least ≤ middle)
    (above : middle ≤ greatest) : least ≤ greatest :=
  Nat.le_trans below above

theorem info_le (severity : Severity) : info ≤ severity :=
  Nat.zero_le severity.rank

end Severity

namespace Category

theorem mem_all (category : Category) : category ∈ (Choice.all : List Category) := by
  cases category <;> decide

theorem nodup_all : (Choice.all : List Category).Nodup := by
  decide

end Category

namespace ResultSet

/-! ## Selections -/

/-- What it is to select the entries with a property: to keep them all in order, and nothing else,
and to end as early as before. -/
structure Selects (results : ResultSet) (keep : ResultEntry → Bool) (selected : ResultSet) :
    Prop where
  sublist : selected.entries.Sublist results.entries
  wanted : ∀ entry ∈ selected.entries, keep entry = true
  /-- No entries with the property are left out. -/
  whole : ∀ entries : List ResultEntry, entries.Sublist results.entries →
    (∀ entry ∈ entries, keep entry = true) → entries.Sublist selected.entries
  complete : selected.complete = results.complete

variable {results selected : ResultSet} {keep : ResultEntry → Bool}

theorem selects_filter (results : ResultSet) (keep : ResultEntry → Bool) :
    results.Selects keep (results.filter keep) where
  sublist := List.filter_sublist
  wanted := fun _ member => (List.mem_filter.1 member).2
  whole := by
    intro entries sublist wanted
    have kept := sublist.filter keep
    rwa [List.filter_eq_self.2 wanted] at kept
  complete := rfl

/-- There is one way of selecting entries. -/
theorem selects_iff : results.Selects keep selected ↔ selected = results.filter keep := by
  constructor
  · intro selects
    have filtered := results.selects_filter keep
    have entries : selected.entries = (results.filter keep).entries :=
      (filtered.whole _ selects.sublist selects.wanted).antisymm
        (selects.whole _ filtered.sublist filtered.wanted)
    have complete : selected.complete = (results.filter keep).complete := selects.complete
    cases selected
    exact congrArg₂ ResultSet.mk entries complete
  · rintro rfl
    exact results.selects_filter keep

/-- Of two selections by severity the stricter one counts. -/
theorem atLeast_atLeast {least greater : Severity} (ordered : least ≤ greater)
    (results : ResultSet) : (results.atLeast least).atLeast greater = results.atLeast greater := by
  unfold atLeast filter
  rw [List.filter_filter]
  congr 2
  funext entry
  rw [Bool.and_eq_left_iff_imp, decide_eq_true_eq, decide_eq_true_eq]
  exact Severity.le_trans ordered

theorem atLeast_info (results : ResultSet) : results.atLeast .info = results := by
  have all : results.entries.filter (fun entry => decide (Severity.info ≤ entry.severity)) =
      results.entries :=
    List.filter_eq_self.2 fun entry _ => decide_eq_true entry.severity.info_le
  rw [atLeast, filter, all]

/-! ## Figures -/

/-- A figure tells how long the list of the entries with its outcome is. -/
theorem toNat_get_summary_eq_length (few : results.entries.length < 2 ^ 32) (outcome : Outcome) :
    (results.summary.get outcome).toNat = (results.withOutcome outcome).entries.length := by
  rw [toNat_get_summary few, List.count, List.countP_map, List.countP_eq_length_filter]
  rfl

/-- The figures of a selection count what it keeps among the entries with an outcome. -/
theorem toNat_get_summary_filter (few : results.entries.length < 2 ^ 32)
    (keep : ResultEntry → Bool) (outcome : Outcome) :
    ((results.filter keep).summary.get outcome).toNat =
      (results.withOutcome outcome).entries.countP keep := by
  have fewer : (results.filter keep).entries.length < 2 ^ 32 :=
    Nat.lt_of_le_of_lt (List.length_filter_le _ _) few
  rw [toNat_get_summary_eq_length fewer, List.countP_eq_length_filter]
  unfold withOutcome filter
  rw [List.filter_comm]

/-- Every entry is in a selection or in its complement, and in one of them only. -/
theorem toNat_get_summary_filter_add (few : results.entries.length < 2 ^ 32)
    (keep : ResultEntry → Bool) (outcome : Outcome) :
    ((results.filter keep).summary.get outcome).toNat +
        ((results.filter fun entry => !keep entry).summary.get outcome).toNat =
      (results.summary.get outcome).toNat := by
  rw [toNat_get_summary_filter few, toNat_get_summary_filter few, toNat_get_summary_eq_length few,
    List.length_eq_countP_add_countP keep]
  simp

/-- Every entry is on one subject. -/
theorem sum_toNat_get_summary_byCategory (few : results.entries.length < 2 ^ 32)
    (outcome : Outcome) :
    ((Choice.all : List Category).map fun category =>
        ((results.byCategory category).summary.get outcome).toNat).sum =
      (results.summary.get outcome).toNat := by
  have subjects := sum_count_eq_length Category.nodup_all
    ((results.withOutcome outcome).entries.map (·.category)) fun category _ => category.mem_all
  rw [toNat_get_summary_eq_length few, ← List.length_map, ← subjects]
  simp only [byCategory, toNat_get_summary_filter few, List.count, List.countP_map]
  rfl

/-- The figures together tell how many entries there are. -/
theorem sum_toNat_get_summary (few : results.entries.length < 2 ^ 32) :
    results.summary.passed.toNat + results.summary.failed.toNat + results.summary.skipped.toNat +
      results.summary.unknown.toNat = results.entries.length := by
  have sum := Outcome.length_eq_sum_count (results.entries.map (·.outcome))
  rw [List.length_map] at sum
  simp only [← toNat_get_summary few] at sum
  exact sum

theorem toNat_total_summary (few : results.entries.length < 2 ^ 32) :
    results.summary.total.toNat = results.entries.length := by
  have sum := sum_toNat_get_summary few
  rw [OutcomeCounts.total, UInt32.toNat_add, UInt32.toNat_add, UInt32.toNat_add]
  omega

/-- Whenever another entry is counted, there is room for it. -/
theorem toNat_get_summary_lt (few : results.entries.length < 2 ^ 32)
    {before after : List ResultEntry} {entry : ResultEntry}
    (reached : results.entries = before ++ entry :: after) :
    (({ results with entries := before } : ResultSet).summary.get entry.outcome).toNat + 1 <
      2 ^ 32 := by
  rw [reached, List.length_append, List.length_cons] at few
  have fewBefore : ({ results with entries := before } : ResultSet).entries.length < 2 ^ 32 := by
    simp only
    omega
  have bound := before.length_filter_le fun known => known.outcome == entry.outcome
  rw [toNat_get_summary_eq_length fewBefore]
  simp only [withOutcome, filter]
  omega

/-- The failures are the entries that failed, and their figure tells how many there are. -/
theorem length_failures (few : results.entries.length < 2 ^ 32) :
    results.failures.length = results.summary.failed.toNat :=
  (toNat_get_summary_eq_length few .failed).symm

/-- Nothing is lost or made up in the figures and selections of a set that can be counted. A
selection keeps the entries with its property, all of them and in order, and leaves open what was
open. Its figures and those of its complement add up to those of the set, as do the figures of the
selections by subject. Together the figures tell how many entries there are, and no counter
overflows on the way. The failures are the entries that failed, as many as their figure tells. A
selection by severity within a laxer one is what it would be in the set, and the laxest of them is
the set. -/
theorem figures_add_up (few : results.entries.length < 2 ^ 32) :
    (∀ keep selected, results.Selects keep selected ↔ selected = results.filter keep) ∧
      (∀ keep outcome,
        ((results.filter keep).summary.get outcome).toNat +
            ((results.filter fun entry => !keep entry).summary.get outcome).toNat =
          (results.summary.get outcome).toNat) ∧
      (∀ outcome,
        ((Choice.all : List Category).map fun category =>
            ((results.byCategory category).summary.get outcome).toNat).sum =
          (results.summary.get outcome).toNat) ∧
      (∀ before entry after, results.entries = before ++ entry :: after →
        (({ results with entries := before } : ResultSet).summary.get entry.outcome).toNat + 1 <
          2 ^ 32) ∧
      results.summary.passed.toNat + results.summary.failed.toNat +
          results.summary.skipped.toNat + results.summary.unknown.toNat =
        results.entries.length ∧
      results.summary.total.toNat = results.entries.length ∧
      results.failures.length = results.summary.failed.toNat ∧
      results.failures = (results.filter fun entry => entry.outcome == .failed).entries ∧
      (∀ least greater, least ≤ greater →
        (results.atLeast least).atLeast greater = results.atLeast greater) ∧
      results.atLeast .info = results := by
  refine ⟨fun keep selected => selects_iff, toNat_get_summary_filter_add few,
    sum_toNat_get_summary_byCategory few, fun before entry after => toNat_get_summary_lt few,
    sum_toNat_get_summary few, toNat_total_summary few, length_failures few, rfl, ?_,
    results.atLeast_info⟩
  exact fun least greater ordered => results.atLeast_atLeast ordered

/-- An entry of each outcome, on three subjects and of three severities, in a run that ended
early. -/
theorem figures_add_up_of_four :
    let entry (id : String) (category : Category) (severity : Severity) (outcome : Outcome) :
        ResultEntry :=
      ⟨⟨"net", 0, none⟩, id, "rule", category, severity, outcome, none⟩
    let failed := entry "R1" .networking .error .failed
    let passed := entry "R2" .encryption .warning .passed
    let skipped := entry "R3" .networking .info .skipped
    let unknown := entry "R4" .identity .warning .unknown
    let results : ResultSet := ⟨[failed, passed, skipped, unknown], false⟩
    let selected : ResultSet := ⟨[failed, skipped], false⟩
    results.entries.length < 2 ^ 32 ∧ selected = results.byCategory .networking ∧
      results.Selects (fun entry => entry.category == .networking) selected ∧
      selected.summary.failed.toNat +
          (results.filter fun entry => !(entry.category == .networking)).summary.failed.toNat =
        results.summary.failed.toNat ∧
      (({ results with entries := [failed, passed] } : ResultSet).summary.get
          skipped.outcome).toNat + 1 < 2 ^ 32 ∧
      results.failures.length = 1 ∧ results.summary.total.toNat = 4 ∧
      (results.atLeast .warning).atLeast .error = ⟨[failed], false⟩ := by
  intro entry failed passed skipped unknown results selected
  have few : results.entries.length < 2 ^ 32 := by decide
  have same : selected = results.byCategory .networking := by decide +kernel
  obtain ⟨selects, complement, _, room, _, total, failures, _, stricter, _⟩ :=
    figures_add_up few
  refine ⟨few, same, (selects _ _).2 same, ?_, room _ _ [unknown] rfl, ?_, ?_, ?_⟩
  · exact same ▸ complement (fun entry => entry.category == .networking) .failed
  · rw [failures]
    decide +kernel
  · exact total
  · rw [stricter .warning .error (by decide)]
    decide +kernel

end ResultSet

end ConfigAudit
