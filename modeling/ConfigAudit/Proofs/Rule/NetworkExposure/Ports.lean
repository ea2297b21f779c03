import Mathlib.Data.List.TakeDrop
import ConfigAudit.Proofs.Number.Reading
import ConfigAudit.Proofs.Text.Trimming
import ConfigAudit.Rule.NetworkExposure

/-!
# What a port specification covers

A port specification is read by the numbers that its numerals denote, so a number past the last port
is no port at all and never another one: `NetworkExposure.portCovers_reads_numbers`.
-/

namespace ConfigAudit

namespace NetworkExposure

/-- A specification without blanks at its ends covers a port. The two sides of a range are parted by
the first dash, and each of them may have blanks at its ends again. -/
inductive Covers (port : Nat) : List Char → Prop where
  | all : Covers port ['*']
  | range {low high lowCore highCore : List Char} {least greatest : Nat}
      (firstDash : '-' ∉ low)
      (lowTrims : Text.TrimsTo low lowCore) (highTrims : Text.TrimsTo high highCore)
      (denotesLeast : Numeral.Denotes lowCore least)
      (denotesGreatest : Numeral.Denotes highCore greatest)
      (leastBound : least ≤ 65535) (greatestBound : greatest ≤ 65535)
      (reached : least ≤ port) (notPassed : port ≤ greatest) : Covers port (low ++ '-' :: high)
  | single {numeral : List Char} (noDash : '-' ∉ numeral)
      (denotes : Numeral.Denotes numeral port) (bound : port ≤ 65535) : Covers port numeral

/-- The places of a specification without blanks at its ends at which a numeral is expected. -/
inductive IsPlace : List Char → List Char → Prop where
  | single {numeral : List Char} (noDash : '-' ∉ numeral) : IsPlace numeral numeral
  | least {low high lowCore : List Char} (firstDash : '-' ∉ low)
      (trims : Text.TrimsTo low lowCore) : IsPlace (low ++ '-' :: high) lowCore
  | greatest {low high highCore : List Char} (firstDash : '-' ∉ low)
      (trims : Text.TrimsTo high highCore) : IsPlace (low ++ '-' :: high) highCore

theorem span_of_noDash {characters : List Char} (noDash : '-' ∉ characters) :
    characters.span (· != '-') = (characters, []) := by
  have other : ∀ character ∈ characters, (character != '-') = true := fun character member =>
    bne_iff_ne.2 (ne_of_mem_of_not_mem member noDash)
  rw [List.span_eq_takeWhile_dropWhile, List.takeWhile_eq_self_iff.2 other,
    List.dropWhile_eq_nil_iff.2 other]

theorem span_of_firstDash {low high : List Char} (firstDash : '-' ∉ low) :
    (low ++ '-' :: high).span (· != '-') = (low, '-' :: high) := by
  have other : ∀ character ∈ low, (character != '-') = true := fun character member =>
    bne_iff_ne.2 (ne_of_mem_of_not_mem member firstDash)
  rw [List.span_eq_takeWhile_dropWhile, List.takeWhile_append_of_pos other,
    List.dropWhile_append_of_pos other, List.takeWhile_cons_of_neg (by simp),
    List.dropWhile_cons_of_neg (by simp), List.append_nil]

/-- A side of a range is read by its number, unless this is past the last port. -/
theorem port?_eq_some_iff {side : List Char} {port : Nat} :
    port? side = some port ↔
      ∃ core, Text.TrimsTo side core ∧ Numeral.Denotes core port ∧ port ≤ 65535 := by
  rw [port?, Numeral.read?_eq_some_iff, portBound, Nat.lt_succ_iff]
  constructor
  · rintro ⟨denotes, bound⟩
    exact ⟨_, Text.trimsTo_trimChars side, denotes, bound⟩
  · rintro ⟨core, trims, denotes, bound⟩
    rw [trims.trimChars_eq]
    exact ⟨denotes, bound⟩

/-- A number past the last port is not taken for another port. -/
theorem port?_eq_none {side core : List Char} {number : Nat} (trims : Text.TrimsTo side core)
    (denotes : Numeral.Denotes core number) (large : 65535 < number) : port? side = none := by
  cases read : port? side with
  | none => rfl
  | some port =>
    obtain ⟨_, trimsAgain, denotesPort, bound⟩ := port?_eq_some_iff.1 read
    rw [← trimsAgain.trimChars_eq, trims.trimChars_eq] at denotesPort
    rw [denotes.unique denotesPort] at large
    omega

section Trimmed

variable {specification : String}

theorem portCovers_iff_of_noDash {core : List Char}
    (trims : Text.TrimsTo specification.toList core) (noDash : '-' ∉ core) (port : Nat) :
    portCovers specification port = true ↔
      core = ['*'] ∨ Numeral.read? portBound core = some port := by
  rw [portCovers, trims.trimChars_eq]
  by_cases asterisk : core = ['*']
  · simp [asterisk]
  · rw [if_neg (by simpa using asterisk), span_of_noDash noDash]
    simp [asterisk]

theorem portCovers_iff_of_firstDash {low high : List Char}
    (trims : Text.TrimsTo specification.toList (low ++ '-' :: high)) (firstDash : '-' ∉ low)
    (port : Nat) :
    portCovers specification port = true ↔
      ∃ least greatest, port? low = some least ∧ port? high = some greatest ∧
        least ≤ port ∧ port ≤ greatest := by
  have noAsterisk : low ++ '-' :: high ≠ ['*'] := by
    intro same
    have dash : '-' ∈ ['*'] := same ▸ List.mem_append_right low List.mem_cons_self
    exact absurd dash (by decide)
  rw [portCovers, trims.trimChars_eq, if_neg (by simpa using noAsterisk),
    span_of_firstDash firstDash]
  cases readLow : port? low with
  | none => simp [readLow]
  | some least =>
    cases readHigh : port? high with
    | none => simp [readLow, readHigh]
    | some greatest => simp [readLow, readHigh]

/-- What a specification covers is read off what is left of it after trimming. -/
theorem portCovers_iff_covers {core : List Char}
    (trims : Text.TrimsTo specification.toList core) (port : Nat) :
    portCovers specification port = true ↔ Covers port core := by
  constructor
  · intro covers
    by_cases dash : '-' ∈ core
    · obtain ⟨low, high, rfl, firstDash⟩ := List.eq_append_cons_of_mem dash
      obtain ⟨least, greatest, readLow, readHigh, reached, notPassed⟩ :=
        (portCovers_iff_of_firstDash trims firstDash port).1 covers
      obtain ⟨_, lowTrims, denotesLeast, leastBound⟩ := port?_eq_some_iff.1 readLow
      obtain ⟨_, highTrims, denotesGreatest, greatestBound⟩ := port?_eq_some_iff.1 readHigh
      exact .range firstDash lowTrims highTrims denotesLeast denotesGreatest leastBound
        greatestBound reached notPassed
    · rcases (portCovers_iff_of_noDash trims dash port).1 covers with rfl | read
      · exact .all
      · obtain ⟨denotes, bound⟩ := Numeral.read?_eq_some_iff.1 read
        exact .single dash denotes (Nat.lt_succ_iff.1 bound)
  · intro covers
    cases covers with
    | all => exact (portCovers_iff_of_noDash trims (by decide) port).2 (.inl rfl)
    | range firstDash lowTrims highTrims denotesLeast denotesGreatest leastBound greatestBound
        reached notPassed =>
      exact (portCovers_iff_of_firstDash trims firstDash port).2
        ⟨_, _, port?_eq_some_iff.2 ⟨_, lowTrims, denotesLeast, leastBound⟩,
          port?_eq_some_iff.2 ⟨_, highTrims, denotesGreatest, greatestBound⟩, reached, notPassed⟩
    | single noDash denotes bound =>
      exact (portCovers_iff_of_noDash trims noDash port).2
        (.inr (Numeral.read?_eq_some_iff.2 ⟨denotes, Nat.lt_succ_iff.2 bound⟩))

/-- One number past the last port, and a specification covers nothing. -/
theorem not_portCovers_of_large {core place : List Char} {number : Nat}
    (trims : Text.TrimsTo specification.toList core) (expected : IsPlace core place)
    (denotes : Numeral.Denotes place number) (large : 65535 < number) (port : Nat) :
    portCovers specification port ≠ true := by
  intro covers
  cases expected with
  | single noDash =>
    rcases (portCovers_iff_of_noDash trims noDash port).1 covers with rfl | read
    · have unread : Numeral.read? (number + 1) ['*'] = none := rfl
      exact nomatch unread.symm.trans
        (Numeral.read?_eq_some_iff.2 ⟨denotes, Nat.lt_succ_self number⟩)
    · obtain ⟨denotesPort, bound⟩ := Numeral.read?_eq_some_iff.1 read
      rw [denotes.unique denotesPort] at large
      exact Nat.not_le_of_lt large (Nat.lt_succ_iff.1 bound)
  | least firstDash lowTrims =>
    obtain ⟨_, _, readLow, _⟩ := (portCovers_iff_of_firstDash trims firstDash port).1 covers
    exact nomatch (port?_eq_none lowTrims denotes large).symm.trans readLow
  | greatest firstDash highTrims =>
    obtain ⟨_, _, _, readHigh, _⟩ := (portCovers_iff_of_firstDash trims firstDash port).1 covers
    exact nomatch (port?_eq_none highTrims denotes large).symm.trans readHigh

end Trimmed

/-- The ports that are covered. -/
inductive Extent (covered : Nat → Prop) : Prop where
  | nothing (nowhere : ∀ port, ¬ covered port)
  | everything (everywhere : ∀ port, covered port)
  | one (only : Nat) (bound : only ≤ 65535) (exactly : ∀ port, covered port ↔ port = only)
  | interval (least greatest : Nat) (proper : least < greatest) (bound : greatest ≤ 65535)
      (exactly : ∀ port, covered port ↔ least ≤ port ∧ port ≤ greatest)

/-- The ports between two bounds, which may stand in the wrong order. -/
theorem Extent.between {covered : Nat → Prop} {least greatest : Nat} (bound : greatest ≤ 65535)
    (exactly : ∀ port, covered port ↔ least ≤ port ∧ port ≤ greatest) : Extent covered := by
  rcases Nat.lt_trichotomy least greatest with proper | rfl | reversed
  · exact .interval least greatest proper bound exactly
  · exact .one least bound fun port => by rw [exactly]; omega
  · exact .nothing fun port => by rw [exactly]; omega

theorem extent_portCovers (specification : String) :
    Extent (portCovers specification · = true) := by
  have trims := Text.trimsTo_trimChars specification.toList
  generalize Text.trimChars specification.toList = core at trims
  by_cases dash : '-' ∈ core
  · obtain ⟨low, high, rfl, firstDash⟩ := List.eq_append_cons_of_mem dash
    have exactly := portCovers_iff_of_firstDash trims firstDash
    cases readLow : port? low with
    | none => exact .nothing fun port => by simp [exactly, readLow]
    | some least =>
      cases readHigh : port? high with
      | none => exact .nothing fun port => by simp [exactly, readHigh]
      | some greatest =>
        obtain ⟨_, _, _, bound⟩ := port?_eq_some_iff.1 readHigh
        have within : ∀ port, portCovers specification port = true ↔
            least ≤ port ∧ port ≤ greatest := fun port => by simp [exactly, readLow, readHigh]
        exact .between bound within
  · have exactly := portCovers_iff_of_noDash trims dash
    by_cases asterisk : core = ['*']
    · exact .everything fun port => (exactly port).2 (.inl asterisk)
    · cases read : Numeral.read? portBound core with
      | none => exact .nothing fun port => by simp [exactly, asterisk, read]
      | some only =>
        refine .one only (Nat.lt_succ_iff.1 (Numeral.read?_eq_some_iff.1 read).2) fun port => ?_
        simp [exactly, asterisk, read, eq_comm]

/-- A port specification is read by the numbers that its numerals denote. One number past the last
port, and it covers nothing; otherwise it covers nothing, everything, one port or an interval. -/
theorem portCovers_reads_numbers (specification : String) :
    (∀ port, portCovers specification port = true ↔
      ∃ core, Text.TrimsTo specification.toList core ∧ Covers port core) ∧
    (∀ core place number, Text.TrimsTo specification.toList core → IsPlace core place →
      Numeral.Denotes place number → 65535 < number →
      ∀ port, portCovers specification port = false) ∧
    Extent (portCovers specification · = true) := by
  refine ⟨fun port => ?_, fun core place number trims expected denotes large port => ?_,
    extent_portCovers specification⟩
  · constructor
    · intro covers
      have trims := Text.trimsTo_trimChars specification.toList
      exact ⟨_, trims, (portCovers_iff_covers trims port).1 covers⟩
    · rintro ⟨core, trims, covers⟩
      exact (portCovers_iff_covers trims port).2 covers
  · exact Bool.eq_false_iff.2 (not_portCovers_of_large trims expected denotes large port)

/-- Signs, zeros on the left and blanks do not matter, and 65558 is not taken for 22. -/
theorem portCovers_reads_numbers_of_ranges :
    portCovers " +0020 -\t0025 " 22 = true ∧ portCovers "65558-22" 22 = false ∧
      portCovers "65558" 22 = false := by
  have denotesLarge : Numeral.Denotes "65558".toList 65558 :=
    .plain (Numeral.digitsDenote_iff.2 ⟨by decide, List.all_eq_true.1 rfl, rfl⟩)
  refine ⟨?signed, ?range, ?single⟩
  case signed =>
    refine ((portCovers_reads_numbers _).1 22).2
      ⟨"+0020 ".toList ++ '-' :: "\t0025".toList, Text.trimChars_eq_iff.1 (by decide), ?_⟩
    have trimsLow : Text.TrimsTo "+0020 ".toList "+0020".toList :=
      Text.trimChars_eq_iff.1 (by decide)
    have trimsHigh : Text.TrimsTo "\t0025".toList "0025".toList :=
      Text.trimChars_eq_iff.1 (by decide)
    have denotesLow : Numeral.Denotes "+0020".toList 20 :=
      .signed (Numeral.digitsDenote_iff.2 ⟨by decide, List.all_eq_true.1 rfl, rfl⟩)
    have denotesHigh : Numeral.Denotes "0025".toList 25 :=
      .plain (Numeral.digitsDenote_iff.2 ⟨by decide, List.all_eq_true.1 rfl, rfl⟩)
    exact .range (by decide) trimsLow trimsHigh denotesLow denotesHigh (by decide) (by decide)
      (by decide) (by decide)
  case range =>
    refine (portCovers_reads_numbers "65558-22").2.1 ("65558".toList ++ '-' :: "22".toList)
      "65558".toList 65558 (Text.trimChars_eq_iff.1 (by decide)) ?_ denotesLarge (by decide) 22
    exact .least (by decide) (Text.trimChars_eq_iff.1 (by decide))
  case single =>
    exact (portCovers_reads_numbers "65558").2.1 _ "65558".toList 65558
      (Text.trimChars_eq_iff.1 (by decide)) (.single (by decide)) denotesLarge (by decide) 22

end NetworkExposure

end ConfigAudit
