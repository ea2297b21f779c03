import Mathlib.Algebra.GroupWithZero.Nat
import ConfigAudit.ResultSet

/-!
# Figures and verdict of a result set

The figures count the entries of each outcome. The verdict depends on the severities and outcomes of
the entries, and on whether the set is complete: `ResultSet.verdict_eq_ofFindings`. If every rule has
the severity of an error and only an error fails the run, as it is by default, severities play no
part.
-/

namespace ConfigAudit

/-! ## Counts -/

namespace OutcomeCounts

/-- The number of results with an outcome. -/
def get (counts : OutcomeCounts) : Outcome → UInt32
  | .passed => counts.passed
  | .failed => counts.failed
  | .skipped => counts.skipped
  | .unknown => counts.unknown

theorem get_count (counts : OutcomeCounts) (counted outcome : Outcome) :
    (counts.count counted).get outcome =
      counts.get outcome + if counted = outcome then 1 else 0 := by
  cases counted <;> cases outcome <;> simp [count, get]

/-- Each result is counted under its outcome. -/
theorem get_foldl_count (outcomes : List Outcome) (counts : OutcomeCounts) (outcome : Outcome) :
    (outcomes.foldl count counts).get outcome =
      counts.get outcome + UInt32.ofNat (outcomes.count outcome) := by
  induction outcomes generalizing counts with
  | nil => simp
  | cons first rest inductionHypothesis =>
    rw [List.foldl_cons, inductionHypothesis, get_count, UInt32.add_assoc, List.count_cons,
      Nat.add_comm, UInt32.ofNat_add]
    congr 2
    by_cases same : first = outcome <;> simp [same]

end OutcomeCounts

namespace Outcome

/-- Every result has one of the four outcomes. -/
theorem length_eq_sum_count (outcomes : List Outcome) :
    outcomes.count passed + outcomes.count failed + outcomes.count skipped +
      outcomes.count unknown = outcomes.length := by
  induction outcomes with
  | nil => rfl
  | cons first rest inductionHypothesis =>
    rw [List.length_cons, ← inductionHypothesis]
    cases first <;> simp <;> omega

end Outcome

namespace FailOn

/-- The least severity of a failure that fails the run. -/
def severity : FailOn → Severity
  | error => .error
  | warning => .warning

end FailOn

namespace Verdict

/-- The verdict on findings, each a severity with an outcome: a failure that is severe enough fails
the run, and nothing but passed and skipped results of a complete run lets it pass. -/
def ofFindings (failOn : FailOn) (complete : Bool) (findings : List (Severity × Outcome)) :
    Verdict :=
  if ∃ finding ∈ findings, finding.2 = .failed ∧ failOn.severity ≤ finding.1 then .fail
  else if complete = true ∧ ∀ finding ∈ findings, finding.2 = .passed ∨ finding.2 = .skipped then
    .pass
  else .warn

variable {failOn : FailOn} {complete : Bool} {findings : List (Severity × Outcome)}

theorem ofFindings_eq_fail_iff :
    ofFindings failOn complete findings = .fail ↔
      ∃ finding ∈ findings, finding.2 = .failed ∧ failOn.severity ≤ finding.1 := by
  unfold ofFindings
  split
  case isTrue fails => exact iff_of_true rfl fails
  case isFalse holds =>
    refine iff_of_false ?_ holds
    split <;> exact nofun

theorem ofFindings_eq_pass_iff :
    ofFindings failOn complete findings = .pass ↔
      complete = true ∧ ∀ finding ∈ findings, finding.2 = .passed ∨ finding.2 = .skipped := by
  unfold ofFindings
  split
  case isTrue fails =>
    refine iff_of_false nofun ?_
    rintro ⟨_, harmless⟩
    obtain ⟨finding, member, failed, _⟩ := fails
    rcases harmless finding member with passed | skipped
    · exact nomatch passed.symm.trans failed
    · exact nomatch skipped.symm.trans failed
  case isFalse =>
    split
    case isTrue passes => exact iff_of_true rfl passes
    case isFalse warns => exact iff_of_false nofun warns

theorem le_fail (verdict : Verdict) : verdict ≤ fail := by
  cases verdict <;> decide

theorem le_warn_of_ne_fail {verdict : Verdict} (mild : verdict ≠ fail) : verdict ≤ warn := by
  cases verdict with
  | pass | warn => decide
  | fail => exact absurd rfl mild

/-- Findings that are left out or skipped make no verdict worse. -/
theorem ofFindings_le {relaxed : List (Severity × Outcome)}
    (kept : ∀ finding ∈ relaxed, finding ∈ findings ∨ finding.2 = .skipped) :
    ofFindings failOn complete relaxed ≤ ofFindings failOn complete findings := by
  cases verdict : ofFindings failOn complete findings with
  | fail => exact le_fail _
  | warn =>
    refine le_warn_of_ne_fail fun fails => ?_
    obtain ⟨finding, member, failed, grave⟩ := ofFindings_eq_fail_iff.1 fails
    rcases kept finding member with known | skipped
    · exact nomatch verdict.symm.trans
        (ofFindings_eq_fail_iff.2 ⟨finding, known, failed, grave⟩)
    · exact nomatch skipped.symm.trans failed
  | pass =>
    obtain ⟨ended, harmless⟩ := ofFindings_eq_pass_iff.1 verdict
    have passes : ofFindings failOn complete relaxed = pass := by
      refine ofFindings_eq_pass_iff.2 ⟨ended, fun finding member => ?_⟩
      rcases kept finding member with known | skipped
      · exact harmless finding known
      · exact .inr skipped
    rw [passes]
    decide

end Verdict

namespace ResultSet

variable {results : ResultSet}

/-- The figures are a matter of the outcomes. -/
theorem summary_eq_foldl (results : ResultSet) :
    results.summary = (results.entries.map (·.outcome)).foldl OutcomeCounts.count {} := by
  rw [summary, List.foldl_map]

/-- The figures tell how many entries have an outcome, if so many can be told. -/
theorem toNat_get_summary (few : results.entries.length < 2 ^ 32) (outcome : Outcome) :
    (results.summary.get outcome).toNat = (results.entries.map (·.outcome)).count outcome := by
  have none : OutcomeCounts.get {} outcome = 0 := by cases outcome <;> rfl
  have bound : (results.entries.map (·.outcome)).count outcome ≤ results.entries.length := by
    simpa using List.count_le_length (a := outcome) (l := results.entries.map (·.outcome))
  rw [summary_eq_foldl, OutcomeCounts.get_foldl_count, none, UInt32.zero_add]
  exact UInt32.toNat_ofNat_of_lt (Nat.lt_of_le_of_lt bound few)

theorem hasFailure_iff {severity : Severity} :
    results.hasFailure severity = true ↔
      ∃ entry ∈ results.entries, entry.outcome = .failed ∧ entry.severity = severity := by
  simp [hasFailure]

theorem hasUnknown_iff :
    results.hasUnknown = true ↔ ∃ entry ∈ results.entries, entry.outcome = .unknown := by
  simp [hasUnknown]

/-- The severities and outcomes of the entries. -/
def findings (results : ResultSet) : List (Severity × Outcome) :=
  results.entries.map fun entry => (entry.severity, entry.outcome)

theorem exists_failed_iff_hasFailure (failOn : FailOn) :
    (∃ finding ∈ results.findings, finding.2 = .failed ∧ failOn.severity ≤ finding.1) ↔
      results.hasFailure .error = true ∨
        failOn = .warning ∧ results.hasFailure .warning = true := by
  simp only [findings, List.mem_map, exists_exists_and_eq_and, hasFailure_iff]
  constructor
  · rintro ⟨entry, member, failed, grave⟩
    cases severity : entry.severity with
    | error => exact .inl ⟨entry, member, failed, severity⟩
    | warning =>
      rw [severity] at grave
      cases failOn with
      | error => exact absurd grave (by decide)
      | warning => exact .inr ⟨rfl, entry, member, failed, severity⟩
    | info =>
      rw [severity] at grave
      cases failOn <;> exact absurd grave (by decide)
  · rintro (⟨entry, member, failed, severity⟩ | ⟨rfl, entry, member, failed, severity⟩)
    · refine ⟨entry, member, failed, ?_⟩
      rw [severity]
      cases failOn <;> decide
    · exact ⟨entry, member, failed, by rw [severity]; decide⟩

theorem forall_harmless_iff :
    (∀ finding ∈ results.findings, finding.2 = .passed ∨ finding.2 = .skipped) ↔
      (∀ severity, results.hasFailure severity = false) ∧ results.hasUnknown = false := by
  simp only [findings, List.forall_mem_map, ← Bool.not_eq_true, hasFailure_iff, hasUnknown_iff]
  constructor
  · intro harmless
    constructor
    · rintro _ ⟨entry, member, failed, _⟩
      simpa [failed] using harmless entry member
    · rintro ⟨entry, member, unknown⟩
      simpa [unknown] using harmless entry member
  · rintro ⟨noFailure, noUnknown⟩ entry member
    cases outcome : entry.outcome with
    | passed => exact .inl rfl
    | skipped => exact .inr rfl
    | failed => exact absurd ⟨entry, member, outcome, rfl⟩ (noFailure entry.severity)
    | unknown => exact absurd ⟨entry, member, outcome⟩ noUnknown

/-- The verdict can be told from the severities and outcomes of the entries, and from whether the
set is complete. -/
theorem verdict_eq_ofFindings (results : ResultSet) (failOn : FailOn) :
    results.verdict failOn = .ofFindings failOn results.complete results.findings := by
  have severities : (∀ severity, results.hasFailure severity = false) ↔
      results.hasFailure .info = false ∧ results.hasFailure .warning = false ∧
        results.hasFailure .error = false :=
    ⟨fun none => ⟨none _, none _, none _⟩, by rintro ⟨_, _, _⟩ (_ | _) <;> assumption⟩
  simp only [verdict, Verdict.ofFindings, exists_failed_iff_hasFailure, forall_harmless_iff,
    severities]
  cases results.hasFailure .error <;> cases results.hasFailure .warning <;>
    cases results.hasFailure .info <;> cases results.hasUnknown <;> cases results.complete <;>
    cases failOn <;> rfl

/-- If every rule has the severity of an error, every failure is one. -/
theorem hasFailure_error_iff (grave : ∀ entry ∈ results.entries, entry.severity = .error) :
    results.hasFailure .error = true ↔ ∃ entry ∈ results.entries, entry.outcome = .failed := by
  rw [hasFailure_iff]
  constructor
  · rintro ⟨entry, member, failed, _⟩
    exact ⟨entry, member, failed⟩
  · rintro ⟨entry, member, failed⟩
    exact ⟨entry, member, failed, grave entry member⟩

/-- A run in which every rule has the severity of an error fails if anything does. -/
theorem verdict_error_eq_fail_iff (grave : ∀ entry ∈ results.entries, entry.severity = .error) :
    results.verdict .error = .fail ↔ ∃ entry ∈ results.entries, entry.outcome = .failed := by
  rw [verdict_eq_ofFindings, Verdict.ofFindings_eq_fail_iff, exists_failed_iff_hasFailure,
    hasFailure_error_iff grave]
  exact or_iff_left fun ⟨impossible, _⟩ => nomatch impossible

/-- If it is complete and nothing fails, it warns of a breakdown. -/
theorem verdict_error_eq_warn_iff (grave : ∀ entry ∈ results.entries, entry.severity = .error)
    (complete : results.complete = true) :
    results.verdict .error = .warn ↔
      (¬ ∃ entry ∈ results.entries, entry.outcome = .failed) ∧
        ∃ entry ∈ results.entries, entry.outcome = .unknown := by
  have slight (severity : Severity) (other : severity ≠ .error) :
      results.hasFailure severity = false := by
    rw [Bool.eq_false_iff]
    intro failed
    obtain ⟨entry, member, _, rfl⟩ := hasFailure_iff.1 failed
    exact other (grave entry member)
  rw [← hasFailure_error_iff grave, ← hasUnknown_iff, verdict, slight .info nofun,
    slight .warning nofun, complete]
  cases results.hasFailure .error <;> cases results.hasUnknown <;> decide

end ResultSet

end ConfigAudit
