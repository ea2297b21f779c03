import Mathlib.Order.MinMax
import ConfigAudit.Proofs.ResultSet

/-!
# The verdict as a maximum

Each entry of a result set calls for a verdict by itself, and so does an early end of the run. The
verdict on the set is the worst of these: `ResultSet.verdict_is_maximum`. What it says of the order of
entries and of sets that are joined or cut down follows from `ResultSet.verdict_le_iff`: a verdict is
no worse than a bound iff nothing in the set calls for a worse one.
-/

namespace ConfigAudit

/-! ## The order of verdicts -/

namespace Verdict

theorem rank_injective : Function.Injective rank := by
  intro left right same
  cases left <;> cases right <;> simp_all [rank]

instance : LinearOrder Verdict where
  le_refl verdict := Nat.le_refl verdict.rank
  le_trans _ _ _ := Nat.le_trans
  le_antisymm _ _ forth back := rank_injective (Nat.le_antisymm forth back)
  le_total left right := Nat.le_total left.rank right.rank
  toDecidableLE := inferInstance
  toDecidableEq := inferInstance

theorem le_pass_iff {verdict : Verdict} : verdict ≤ pass ↔ verdict = pass := by
  cases verdict <;> decide

theorem le_warn_iff {verdict : Verdict} : verdict ≤ warn ↔ verdict ≠ fail := by
  cases verdict <;> decide

/-- The worst of some verdicts is no worse than a bound iff none of them is. -/
theorem foldr_max_le_iff {verdicts : List Verdict} {start bound : Verdict} :
    verdicts.foldr max start ≤ bound ↔ start ≤ bound ∧ ∀ verdict ∈ verdicts, verdict ≤ bound := by
  induction verdicts with
  | nil => simp
  | cons verdict verdicts inductionHypothesis =>
    rw [List.foldr_cons, max_le_iff, inductionHypothesis, List.forall_mem_cons]
    exact and_left_comm

end Verdict

/-! ## What calls for a verdict -/

namespace ResultEntry

/-- The verdict that an entry calls for by itself. -/
def verdict (failOn : FailOn) (entry : ResultEntry) : Verdict :=
  match entry.outcome, entry.severity, failOn with
  | .failed, .error, _ => .fail
  | .failed, .warning, .warning => .fail
  | .failed, _, _ => .warn
  | .unknown, _, _ => .warn
  | .passed, _, _ => .pass
  | .skipped, _, _ => .pass

variable {entry : ResultEntry} {failOn : FailOn}

theorem verdict_eq_fail_iff :
    entry.verdict failOn = .fail ↔
      entry.outcome = .failed ∧ failOn.severity ≤ entry.severity := by
  unfold verdict
  cases entry.outcome <;> cases entry.severity <;> cases failOn <;> decide

theorem verdict_eq_pass_iff :
    entry.verdict failOn = .pass ↔ entry.outcome = .passed ∨ entry.outcome = .skipped := by
  unfold verdict
  cases entry.outcome <;> cases entry.severity <;> cases failOn <;> decide

theorem verdict_error_le_warning (entry : ResultEntry) :
    entry.verdict .error ≤ entry.verdict .warning := by
  unfold verdict
  cases entry.outcome <;> cases entry.severity <;> decide

/-- An entry below the severity of a warning never fails the run. -/
theorem warning_le_severity (fails : entry.verdict failOn = .fail) :
    Severity.warning ≤ entry.severity := by
  obtain ⟨_, grave⟩ := verdict_eq_fail_iff.1 fails
  revert grave
  cases entry.severity <;> cases failOn <;> decide

end ResultEntry

namespace ResultSet

/-- The verdict that the end of the run calls for by itself. -/
def ending (results : ResultSet) : Verdict :=
  if results.complete then .pass else .warn

/-- Two result sets as one, which is complete if both of them are. -/
def append (results more : ResultSet) : ResultSet where
  entries := results.entries ++ more.entries
  complete := results.complete && more.complete

variable {results other : ResultSet} {failOn : FailOn}

theorem ending_eq_pass_iff : results.ending = .pass ↔ results.complete = true := by
  unfold ending
  cases results.complete <;> decide

theorem ending_ne_fail : results.ending ≠ .fail := by
  unfold ending
  cases results.complete <;> decide

theorem ending_append (results more : ResultSet) :
    (results.append more).ending = max results.ending more.ending := by
  unfold ending append
  cases results.complete <;> cases more.complete <;> rfl

/-! ## The verdict on a result set -/

theorem verdict_eq_fail_iff :
    results.verdict failOn = .fail ↔ ∃ entry ∈ results.entries, entry.verdict failOn = .fail := by
  simp only [verdict_eq_ofFindings, Verdict.ofFindings_eq_fail_iff, findings, List.mem_map,
    exists_exists_and_eq_and, ResultEntry.verdict_eq_fail_iff]

theorem verdict_eq_pass_iff :
    results.verdict failOn = .pass ↔
      results.complete = true ∧ ∀ entry ∈ results.entries, entry.verdict failOn = .pass := by
  simp only [verdict_eq_ofFindings, Verdict.ofFindings_eq_pass_iff, findings, List.forall_mem_map,
    ResultEntry.verdict_eq_pass_iff]

/-- A verdict is no worse than a bound iff nothing in the set calls for a worse one. -/
theorem verdict_le_iff {bound : Verdict} :
    results.verdict failOn ≤ bound ↔
      results.ending ≤ bound ∧ ∀ entry ∈ results.entries, entry.verdict failOn ≤ bound := by
  cases bound with
  | pass => simp only [Verdict.le_pass_iff, verdict_eq_pass_iff, ending_eq_pass_iff]
  | warn =>
    simp only [Verdict.le_warn_iff, ne_eq, verdict_eq_fail_iff, not_exists, not_and]
    exact (and_iff_right ending_ne_fail).symm
  | fail => exact iff_of_true (Verdict.le_fail _) ⟨Verdict.le_fail _, fun _ _ => Verdict.le_fail _⟩

theorem verdict_eq_foldr_max (results : ResultSet) (failOn : FailOn) :
    results.verdict failOn =
      (results.entries.map (·.verdict failOn)).foldr max results.ending := by
  refine eq_of_forall_ge_iff fun bound => ?_
  rw [verdict_le_iff, Verdict.foldr_max_le_iff, List.forall_mem_map]

/-- Sets with the same entries, in whatever order and however often, get the same verdict. -/
theorem verdict_congr (same : ∀ entry, entry ∈ results.entries ↔ entry ∈ other.entries)
    (ended : results.complete = other.complete) :
    results.verdict failOn = other.verdict failOn := by
  refine eq_of_forall_ge_iff fun bound => ?_
  simp only [verdict_le_iff, ending, ended, same]

theorem verdict_append (results more : ResultSet) (failOn : FailOn) :
    (results.append more).verdict failOn = max (results.verdict failOn) (more.verdict failOn) := by
  refine eq_of_forall_ge_iff fun bound => ?_
  rw [max_le_iff, verdict_le_iff, verdict_le_iff, verdict_le_iff, ending_append, max_le_iff, append,
    List.forall_mem_append]
  exact and_and_and_comm

theorem verdict_filter_le (results : ResultSet) (failOn : FailOn) (keep : ResultEntry → Bool) :
    (results.filter keep).verdict failOn ≤ results.verdict failOn := by
  obtain ⟨ending, entries⟩ := verdict_le_iff.1 (le_refl (results.verdict failOn))
  exact verdict_le_iff.2 ⟨ending, fun entry member => entries entry (List.mem_filter.1 member).1⟩

theorem verdict_error_le_warning (results : ResultSet) :
    results.verdict .error ≤ results.verdict .warning := by
  obtain ⟨ending, entries⟩ := verdict_le_iff.1 (le_refl (results.verdict .warning))
  exact verdict_le_iff.2
    ⟨ending, fun entry member => entry.verdict_error_le_warning.trans (entries entry member)⟩

theorem verdict_atLeast_warning_eq_fail_iff :
    (results.atLeast .warning).verdict failOn = .fail ↔ results.verdict failOn = .fail := by
  simp only [verdict_eq_fail_iff, atLeast, filter, List.mem_filter, decide_eq_true_eq]
  constructor
  · rintro ⟨entry, ⟨member, _⟩, fails⟩
    exact ⟨entry, member, fails⟩
  · rintro ⟨entry, member, fails⟩
    exact ⟨entry, ⟨member, ResultEntry.warning_le_severity fails⟩, fails⟩

/-- The verdict is the worst that an entry or the end of the run calls for. So it does not depend on
the order of the entries, two sets together get the worse of their verdicts, and no selection of
entries gets a worse one. Failing on warnings, too, makes no verdict better, and entries below the
severity of a warning play no part in whether the run fails. -/
theorem verdict_is_maximum (results : ResultSet) (failOn : FailOn) :
    results.verdict failOn =
        (results.entries.map (·.verdict failOn)).foldr max
          (if results.complete then .pass else .warn) ∧
      (∀ other : ResultSet, results.entries.Perm other.entries →
        results.complete = other.complete → results.verdict failOn = other.verdict failOn) ∧
      (∀ more : ResultSet,
        (results.append more).verdict failOn =
          max (results.verdict failOn) (more.verdict failOn)) ∧
      (∀ keep, (results.filter keep).verdict failOn ≤ results.verdict failOn) ∧
      results.verdict .error ≤ results.verdict .warning ∧
      ((results.atLeast .warning).verdict failOn = .fail ↔ results.verdict failOn = .fail) := by
  refine ⟨results.verdict_eq_foldr_max failOn, fun other permuted ended => ?_,
    fun more => results.verdict_append more failOn, results.verdict_filter_le failOn,
    results.verdict_error_le_warning, verdict_atLeast_warning_eq_fail_iff⟩
  exact verdict_congr (fun _ => permuted.mem_iff) ended

/-- A failure and a breakdown of a run that ended early, in either order. -/
theorem verdict_is_maximum_of_reversed :
    let slight : ResultEntry :=
      ⟨⟨"bucket", 0, none⟩, "A", "Tagged", .generalSecurity, .warning, .failed, none⟩
    let broken : ResultEntry :=
      ⟨⟨"bucket", 1, none⟩, "B", "Logged", .logging, .error, .unknown, some "no such log"⟩
    let results : ResultSet := ⟨[broken, slight], false⟩
    let other : ResultSet := ⟨[slight, broken], false⟩
    results.entries.Perm other.entries ∧ results.complete = other.complete ∧
      results.verdict .warning = .fail ∧ other.verdict .warning = .fail := by
  intro slight broken results other
  have permuted : results.entries.Perm other.entries := List.Perm.swap _ _ []
  have fails : results.verdict .warning = .fail := by decide +kernel
  obtain ⟨_, reordered, _⟩ := verdict_is_maximum results .warning
  exact ⟨permuted, rfl, fails, (reordered other permuted rfl).symm.trans fails⟩

end ResultSet

end ConfigAudit
