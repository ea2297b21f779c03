import Mathlib.Data.Nat.Notation
import ConfigAudit.Number.Numeral

/-!
# The digits of a numeral

A numeral is made of decimal digits, is led by a zero only if it is that zero, and denotes its
number whether it is filled with zeros on the left or not.
-/

namespace ConfigAudit

namespace Numeral

theorem isDigit_of_mem_digits {number : Nat} {character : Char}
    (member : character ∈ digits number) : character.isDigit = true :=
  Nat.isDigit_of_mem_toDigits (by decide) (by decide) member

theorem digits_ne_nil (number : Nat) : digits number ≠ [] :=
  Nat.toDigits_ne_nil

/-- A numeral of more than one digit is not led by a zero. -/
theorem head?_digits {number : Nat} (positive : 0 < number) :
    ∃ leading rest, digits number = leading :: rest ∧ leading ≠ '0' := by
  induction number using Nat.strongRecOn with
  | ind number inductionHypothesis =>
    by_cases single : number < 10
    · refine ⟨number.digitChar, [], Nat.toDigits_of_lt_base single, ?_⟩
      intro zero
      have value := Nat.toNat_digitChar_sub_48_of_lt_ten single
      rw [zero] at value
      exact absurd value (by simpa using Nat.ne_of_lt positive)
    · have split : digits number = digits (number / 10) ++ [(number % 10).digitChar] :=
        Nat.toDigits_of_base_le (by decide) (Nat.le_of_not_lt single)
      obtain ⟨leading, rest, shorter, nonzero⟩ :=
        inductionHypothesis (number / 10) (by omega) (by omega)
      exact ⟨leading, rest ++ [(number % 10).digitChar], by simp [split, shorter], nonzero⟩

/-- The digits of the lower places follow those of the upper ones. -/
theorem value_append (upper lower : List Char) :
    value (upper ++ lower) = Nat.pow 10 lower.length * value upper + value lower := by
  rw [value, Nat.ofDigitChars_append, Nat.ofDigitChars_eq_ofDigitChars_zero]
  rfl

theorem value_replicate_zero (count : Nat) : value (List.replicate count '0') = 0 := by
  simp [value]

/-- Zeros on the left do not change the number. -/
theorem value_paddedDigits (width number : Nat) : value (paddedDigits width number) = number := by
  simp [paddedDigits, value_append, value_replicate_zero, value_digits]

/-- A number below a power of ten is filled up to the width of that power. -/
theorem length_paddedDigits {width number : Nat} (positive : 0 < width)
    (bound : number < Nat.pow 10 width) : (paddedDigits width number).length = width := by
  have fits : (digits number).length ≤ width :=
    (Nat.length_toDigits_le_iff (by decide) positive).2 bound
  simp [paddedDigits, fits]

theorem isDigit_of_mem_paddedDigits {width number : Nat} {character : Char}
    (member : character ∈ paddedDigits width number) : character.isDigit = true := by
  rcases List.mem_append.1 member with filling | shown
  · obtain ⟨_, rfl⟩ := List.mem_replicate.1 filling
    rfl
  · exact isDigit_of_mem_digits shown

end Numeral

end ConfigAudit
