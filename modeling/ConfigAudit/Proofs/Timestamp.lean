import Mathlib.Data.List.TakeWhile
import ConfigAudit.Proofs.Number.Numeral
import ConfigAudit.Timestamp

/-!
# Reading back a timestamp

Every timestamp is read back from its text: `Timestamp.parse?_text`. Each part has a width of its
own or ends where the next one begins, so the parts are read back one after the other.
-/

namespace ConfigAudit

namespace Calendar

/-- A number of a fixed width is read back. -/
theorem readNumber?_paddedDigits {width number : Nat} (positive : 0 < width)
    (bound : number < Nat.pow 10 width) (rest : List Char) :
    readNumber? width (Numeral.paddedDigits width number ++ rest) = some (number, rest) := by
  have length := Numeral.length_paddedDigits positive bound
  have digits : (Numeral.paddedDigits width number).all Char.isDigit = true :=
    List.all_eq_true.2 fun _ => Numeral.isDigit_of_mem_paddedDigits
  simp [readNumber?, length, digits, Numeral.value_paddedDigits]

theorem readMark?_cons (mark : Char) (rest : List Char) :
    readMark? mark (mark :: rest) = some rest := by
  simp [readMark?]

theorem daysInMonth_le (year month : Nat) : daysInMonth year month ≤ 31 := by
  unfold daysInMonth
  split <;> (try split) <;> decide

/-- A date of the calendar is read back. -/
theorem readDate?_characters {date : Date} (valid : date.isValid = true) (rest : List Char) :
    readDate? (date.characters ++ rest) = some (date, rest) := by
  have parts := valid
  simp only [Date.isValid, Bool.and_eq_true, decide_eq_true_eq] at parts
  obtain ⟨⟨⟨⟨year, _⟩, month⟩, _⟩, day⟩ := parts
  have lastDay := daysInMonth_le date.year date.month
  have yearBound : date.year < Nat.pow 10 4 := Nat.lt_of_le_of_lt year (by decide)
  have monthBound : date.month < Nat.pow 10 2 := Nat.lt_of_le_of_lt month (by decide)
  have dayBound : date.day < Nat.pow 10 2 :=
    Nat.lt_of_le_of_lt (Nat.le_trans day lastDay) (by decide)
  have readYear := readNumber?_paddedDigits (by decide) yearBound
  have readMonth := readNumber?_paddedDigits (by decide) monthBound
  have readDay := readNumber?_paddedDigits (by decide) dayBound
  simp only [readDate?, Date.characters, List.append_assoc, List.cons_append, readYear, readMonth,
    readDay, readMark?_cons, Option.bind_eq_bind, Option.bind_some, valid, if_true]

/-- Hours and minutes are read back. -/
theorem readHourMinute?_paddedDigits {maxHour hour minute : Nat} (hourBound : hour ≤ maxHour)
    (twoDigits : maxHour < Nat.pow 10 2) (minuteBound : minute ≤ 59) (rest : List Char) :
    readHourMinute? maxHour
        (Numeral.paddedDigits 2 hour ++ ':' :: (Numeral.paddedDigits 2 minute ++ rest)) =
      some (hour, minute, rest) := by
  have hourDigits : hour < Nat.pow 10 2 := Nat.lt_of_le_of_lt hourBound twoDigits
  have minuteDigits : minute < Nat.pow 10 2 := Nat.lt_of_le_of_lt minuteBound (by decide)
  have readHour := readNumber?_paddedDigits (by decide) hourDigits
  have readMinute := readNumber?_paddedDigits (by decide) minuteDigits
  simp only [readHourMinute?, readHour, readMinute, readMark?_cons, Option.bind_eq_bind,
    Option.bind_some, hourBound, minuteBound, decide_true, Bool.and_self, if_true]

end Calendar

namespace Timestamp

/-- Trailing zeros are left out of a fraction, and put back when it is read. -/
theorem nanosecondOf_trimmed {digits : List Char} (length : digits.length = 9) :
    nanosecondOf (digits.reverse.dropWhile (· == '0')).reverse = Numeral.value digits := by
  have zeros : digits.reverse.takeWhile (· == '0') =
      List.replicate (digits.reverse.takeWhile (· == '0')).length '0' := by
    rw [List.eq_replicate_iff]
    exact ⟨rfl, fun character member => by simpa using List.mem_takeWhile_imp member⟩
  have parts : digits = (digits.reverse.dropWhile (· == '0')).reverse ++
      List.replicate (digits.reverse.takeWhile (· == '0')).length '0' := by
    have whole := congrArg List.reverse
      (List.takeWhile_append_dropWhile (p := (· == '0')) (l := digits.reverse))
    rw [List.reverse_append, List.reverse_reverse] at whole
    rw [← List.reverse_replicate, ← zeros]
    exact whole.symm
  generalize (digits.reverse.dropWhile (· == '0')).reverse = shown at parts ⊢
  generalize (digits.reverse.takeWhile (· == '0')).length = missing at parts
  subst parts
  have counted : shown.length + missing = 9 := by simpa using length
  have short : shown.take 9 = shown := List.take_of_length_le (by omega)
  have rest : 9 - shown.length = missing := by omega
  simp [nanosecondOf, short, rest, Numeral.value_append, Numeral.value_replicate_zero,
    Nat.mul_comm]

/-- A fraction of a second is read back, if no digit follows it. -/
theorem readFraction?_fractionCharacters {nanosecond : Nat} (bound : nanosecond < nanosecondBound)
    {following : Char} (rest : List Char) (noPoint : following ≠ '.')
    (noDigit : following.isDigit = false) :
    ∃ digits, Calendar.readFraction? (fractionCharacters nanosecond ++ following :: rest) =
        some (digits, following :: rest) ∧
      nanosecondOf digits = nanosecond := by
  unfold fractionCharacters
  split
  case isTrue zero =>
    refine ⟨[], ?_, zero.symm⟩
    unfold Calendar.readFraction?
    split
    case h_1 same => exact absurd (List.head_eq_of_cons_eq same) noPoint
    case h_2 => rfl
  case isFalse positive =>
    dsimp only
    have length : (Numeral.paddedDigits 9 nanosecond).length = 9 :=
      Numeral.length_paddedDigits (by decide) bound
    have value := nanosecondOf_trimmed length
    rw [Numeral.value_paddedDigits] at value
    have digits : ∀ character ∈
        ((Numeral.paddedDigits 9 nanosecond).reverse.dropWhile (· == '0')).reverse,
        character.isDigit = true := by
      intro character member
      have listed := (List.dropWhile_suffix _).subset (List.mem_reverse.1 member)
      exact Numeral.isDigit_of_mem_paddedDigits (List.mem_reverse.1 listed)
    generalize ((Numeral.paddedDigits 9 nanosecond).reverse.dropWhile (· == '0')).reverse = shown
      at value digits ⊢
    have nonempty : shown ≠ [] := by
      rintro rfl
      exact positive value.symm
    refine ⟨shown, ?_, value⟩
    simp [Calendar.readFraction?, List.takeWhile_append_of_pos digits,
      List.dropWhile_append_of_pos digits, noDigit, nonempty]

/-- An offset of less than a day is read back. -/
theorem readOffset?_offsetCharacters {offset : Int} (bound : offset.natAbs < offsetBound) :
    Calendar.readOffset? (offsetCharacters offset) = some (offset, []) := by
  have hour : offset.natAbs / 60 ≤ 23 := by
    have minutes : offset.natAbs < 1440 := bound
    omega
  have minute : offset.natAbs % 60 ≤ 59 := by omega
  have read := Calendar.readHourMinute?_paddedDigits hour (by decide) minute []
  rw [List.append_nil] at read
  unfold offsetCharacters
  split
  case isTrue zero => simp [Calendar.readOffset?, zero]
  case isFalse nonzero =>
    split
    case isTrue negative =>
      have value : -Int.ofNat (offset.natAbs / 60 * 60 + offset.natAbs % 60) = offset := by
        rw [Nat.div_add_mod', Int.ofNat_eq_natCast]
        omega
      simp only [List.cons_append, Calendar.readOffset?, read, Option.bind_eq_bind,
        Option.bind_some, Option.pure_def, value]
    case isFalse positive =>
      have value : Int.ofNat (offset.natAbs / 60 * 60 + offset.natAbs % 60) = offset := by
        rw [Nat.div_add_mod', Int.ofNat_eq_natCast]
        omega
      simp only [List.cons_append, Calendar.readOffset?, read, Option.bind_eq_bind,
        Option.bind_some, Option.pure_def, value]

/-- What follows the fraction of a second begins neither with a point nor with a digit. -/
theorem exists_offsetCharacters (offset : Int) :
    ∃ leading rest, offsetCharacters offset = leading :: rest ∧ leading ≠ '.' ∧
      leading.isDigit = false := by
  unfold offsetCharacters
  split
  · exact ⟨_, _, rfl, by decide, by decide⟩
  · split
    · exact ⟨_, _, rfl, by decide, by decide⟩
    · exact ⟨_, _, rfl, by decide, by decide⟩

/-- Every timestamp is read back from its text. -/
theorem parse?_text (timestamp : Timestamp) : parse? timestamp.text = some timestamp := by
  obtain ⟨date, hour, minute, second, nanosecond, offset, inRange⟩ := timestamp
  have parts := inRange
  simp only [fits, Bool.and_eq_true, decide_eq_true_eq] at parts
  obtain ⟨⟨⟨⟨⟨valid, hourBound⟩, minuteBound⟩, secondBound⟩, fractionBound⟩, offsetBound⟩ := parts
  have secondDigits : second < Nat.pow 10 2 := Nat.lt_of_le_of_lt secondBound (by decide)
  have notLeap : second ≠ 60 := by omega
  have readOffset := readOffset?_offsetCharacters offsetBound
  obtain ⟨leading, rest, offsetText, noPoint, noDigit⟩ := exists_offsetCharacters offset
  obtain ⟨digits, readFraction, fraction⟩ :=
    readFraction?_fractionCharacters fractionBound rest noPoint noDigit
  rw [offsetText] at readOffset
  have readTime := fun rest =>
    Calendar.readHourMinute?_paddedDigits hourBound (by decide) minuteBound rest
  have readSecond := Calendar.readNumber?_paddedDigits (by decide) secondDigits
  have separator (rest : List Char) : readSeparator? ('T' :: rest) = some rest := rfl
  simp only [parse?, text, read?, String.toList_ofList, List.append_assoc, List.cons_append,
    Calendar.readDate?_characters valid, separator, readTime, Calendar.readMark?_cons, readSecond,
    offsetText, readFraction, readOffset, fraction, Option.bind_eq_bind, Option.bind_some,
    List.isEmpty_nil, if_true, ofReading?, notLeap, if_false, ofParts?, inRange, dif_pos]

end Timestamp

end ConfigAudit
