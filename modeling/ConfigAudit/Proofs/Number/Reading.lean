import Mathlib.Data.List.Induction
import ConfigAudit.Proofs.Number.Numeral

/-!
# Reading a numeral

`Numeral.Denotes` says digit by digit which number characters are a numeral of. A numeral is read by
this number, however long it is, and refused if the number is too large:
`Numeral.read?_eq_some_iff`.
-/

namespace ConfigAudit

namespace Numeral

/-- Digits denote a number: one digit its own value, and a further digit on the right ten times the
number before it and its own value. -/
inductive DigitsDenote : List Char → Nat → Prop where
  | single {digit : Char} (isDigit : digit.isDigit = true) :
    DigitsDenote [digit] (digit.toNat - '0'.toNat)
  | snoc {digits : List Char} {number : Nat} {digit : Char} (denotes : DigitsDenote digits number)
    (isDigit : digit.isDigit = true) :
    DigitsDenote (digits ++ [digit]) (10 * number + (digit.toNat - '0'.toNat))

/-- Characters are a numeral of a number: digits that denote it, after at most one plus sign. -/
inductive Denotes : List Char → Nat → Prop where
  | plain {digits : List Char} {number : Nat} (denotes : DigitsDenote digits number) :
    Denotes digits number
  | signed {digits : List Char} {number : Nat} (denotes : DigitsDenote digits number) :
    Denotes ('+' :: digits) number

theorem value_singleton (digit : Char) : value [digit] = digit.toNat - '0'.toNat := by
  simp [value, Nat.ofDigitChars]

theorem value_append_singleton (digits : List Char) (digit : Char) :
    value (digits ++ [digit]) = 10 * value digits + (digit.toNat - '0'.toNat) := by
  rw [value_append, value_singleton]
  rfl

/-- Any digits denote a number, and one number only. -/
theorem digitsDenote_iff {digits : List Char} {number : Nat} :
    DigitsDenote digits number ↔
      digits ≠ [] ∧ (∀ digit ∈ digits, digit.isDigit = true) ∧ value digits = number := by
  constructor
  · intro denotes
    induction denotes with
    | single isDigit => exact ⟨nofun, by simpa using isDigit, value_singleton _⟩
    | @snoc digits number digit _ isDigit inductionHypothesis =>
      obtain ⟨_, areDigits, denoted⟩ := inductionHypothesis
      refine ⟨by simp, fun other member => ?_, ?_⟩
      · rcases List.mem_append.1 member with member | last
        · exact areDigits other member
        · rwa [List.mem_singleton.1 last]
      · rw [value_append_singleton, denoted]
  · rintro ⟨nonempty, areDigits, rfl⟩
    induction digits using List.reverseRecOn with
    | nil => exact absurd rfl nonempty
    | append_singleton digits digit inductionHypothesis =>
      have isDigit : digit.isDigit = true := areDigits digit (by simp)
      by_cases first : digits = []
      · rw [first, List.nil_append, value_singleton]
        exact .single isDigit
      · have others : ∀ other ∈ digits, other.isDigit = true :=
          fun other member => areDigits other (List.mem_append_left _ member)
        rw [value_append_singleton]
        exact .snoc (inductionHypothesis first others) isDigit

theorem denotes_signed_iff {digits : List Char} {number : Nat} :
    Denotes ('+' :: digits) number ↔ DigitsDenote digits number := by
  refine ⟨fun denotes => ?_, .signed⟩
  cases denotes with
  | plain denotes =>
    -- a plus sign is no digit
    exact absurd ((digitsDenote_iff.1 denotes).2.1 '+' List.mem_cons_self) (by decide)
  | signed denotes => exact denotes

theorem denotes_iff_of_unsigned {characters : List Char} {number : Nat}
    (unsigned : ∀ rest, characters ≠ '+' :: rest) :
    Denotes characters number ↔ DigitsDenote characters number := by
  refine ⟨fun denotes => ?_, .plain⟩
  cases denotes with
  | plain denotes => exact denotes
  | @signed digits => exact absurd rfl (unsigned digits)

/-- There is one number of which characters are a numeral, if any. -/
theorem Denotes.unique {characters : List Char} {number other : Nat}
    (denotes : Denotes characters number) (denotesOther : Denotes characters other) :
    number = other := by
  cases denotes with
  | plain denotes =>
    have unsigned : ∀ rest, characters ≠ '+' :: rest := by
      rintro rest rfl
      exact absurd ((digitsDenote_iff.1 denotes).2.1 '+' List.mem_cons_self) (by decide)
    rw [denotes_iff_of_unsigned unsigned, digitsDenote_iff] at denotesOther
    exact (digitsDenote_iff.1 denotes).2.2.symm.trans denotesOther.2.2
  | signed denotes =>
    rw [denotes_signed_iff, digitsDenote_iff] at denotesOther
    exact (digitsDenote_iff.1 denotes).2.2.symm.trans denotesOther.2.2

/-- Digits are read by the number that they denote. -/
theorem readDigits_eq_some_iff {bound : Nat} {digits : List Char} {number : Nat} :
    (if digits.isEmpty || !digits.all Char.isDigit then none
      else if value digits < bound then some (value digits) else none) = some number ↔
      DigitsDenote digits number ∧ number < bound := by
  have noDigits : (digits.isEmpty || !digits.all Char.isDigit) = true ↔
      ¬ (digits ≠ [] ∧ ∀ digit ∈ digits, digit.isDigit = true) := by
    rw [Bool.or_eq_true, List.isEmpty_iff, Bool.not_eq_true', ← Bool.not_eq_true,
      List.all_eq_true, Classical.not_and_iff_not_or_not, not_not]
  rw [digitsDenote_iff]
  constructor
  · intro read
    split at read
    case isTrue => exact nomatch read
    case isFalse areDigits =>
      obtain ⟨nonempty, areDigits⟩ := not_not.1 (mt noDigits.2 areDigits)
      split at read
      case isTrue below =>
        obtain rfl := Option.some.inj read
        exact ⟨⟨nonempty, areDigits, rfl⟩, below⟩
      case isFalse => exact nomatch read
  · rintro ⟨⟨nonempty, areDigits, rfl⟩, below⟩
    rw [if_neg (fun none => noDigits.1 none ⟨nonempty, areDigits⟩), if_pos below]

/-- A numeral is read iff its number is below the bound, and by this number. -/
theorem read?_eq_some_iff {bound : Nat} {characters : List Char} {number : Nat} :
    read? bound characters = some number ↔ Denotes characters number ∧ number < bound := by
  by_cases signed : ∃ digits, characters = '+' :: digits
  · obtain ⟨digits, rfl⟩ := signed
    rw [denotes_signed_iff, ← readDigits_eq_some_iff]
    rfl
  · have unsigned : ∀ rest, characters ≠ '+' :: rest := fun rest same => signed ⟨rest, same⟩
    rw [denotes_iff_of_unsigned unsigned, ← readDigits_eq_some_iff, read?]
    exact unsigned

end Numeral

end ConfigAudit
