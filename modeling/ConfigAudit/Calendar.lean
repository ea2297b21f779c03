import ConfigAudit.Number.Numeral

/-!
# Calendar dates and times of day

Dates of the Gregorian calendar and times of day as documents write them, with a fixed number of
digits for each part.
-/

namespace ConfigAudit

namespace Calendar

/-- Whether a year has a 29th of February. -/
def isLeapYear (year : Nat) : Bool :=
  year % 4 == 0 && (year % 100 != 0 || year % 400 == 0)

/-- The number of days of a month. -/
def daysInMonth (year month : Nat) : Nat :=
  if month = 2 then (if isLeapYear year then 29 else 28)
  else if month = 4 ∨ month = 6 ∨ month = 9 ∨ month = 11 then 30
  else 31

end Calendar

/-- A day of the Gregorian calendar. -/
structure Date where
  year : Nat
  month : Nat
  day : Nat
deriving DecidableEq, Repr, Inhabited

namespace Date

/-- Whether the calendar has the day, in a year of at most four digits. -/
def isValid (date : Date) : Bool :=
  date.year ≤ 9999 && 1 ≤ date.month && date.month ≤ 12 && 1 ≤ date.day &&
    date.day ≤ Calendar.daysInMonth date.year date.month

/-- The day after. -/
def next (date : Date) : Date :=
  if date.day < Calendar.daysInMonth date.year date.month then { date with day := date.day + 1 }
  else if date.month < 12 then ⟨date.year, date.month + 1, 1⟩
  else ⟨date.year + 1, 1, 1⟩

/-- Whether the day is the last one of its month. -/
def isMonthEnd (date : Date) : Bool :=
  date.day == Calendar.daysInMonth date.year date.month

/-- The day so many days after the first of January 1970. Years are counted from the first of March,
so that the leap day comes last, and in blocks of 400 years, which have 146097 days each. -/
def ofEpochDays (days : Nat) : Date :=
  let shifted := days + 719468
  let era := shifted / 146097
  let dayOfEra := shifted % 146097
  let yearOfEra := (dayOfEra - dayOfEra / 1460 + dayOfEra / 36524 - dayOfEra / 146096) / 365
  let dayOfYear := dayOfEra - (365 * yearOfEra + yearOfEra / 4 - yearOfEra / 100)
  let monthFromMarch := (5 * dayOfYear + 2) / 153
  let day := dayOfYear - (153 * monthFromMarch + 2) / 5 + 1
  if monthFromMarch < 10 then ⟨yearOfEra + era * 400, monthFromMarch + 3, day⟩
  else ⟨yearOfEra + era * 400 + 1, monthFromMarch - 9, day⟩

/-- Year, month and day with four, two and two digits and dashes between them. -/
def characters (date : Date) : List Char :=
  Numeral.paddedDigits 4 date.year ++ '-' :: Numeral.paddedDigits 2 date.month ++
    '-' :: Numeral.paddedDigits 2 date.day

end Date

namespace Calendar

/-- Read a number of exactly so many digits. -/
def readNumber? (width : Nat) (characters : List Char) : Option (Nat × List Char) :=
  let digits := characters.take width
  if digits.length = width && digits.all Char.isDigit then
    some (Numeral.value digits, characters.drop width)
  else none

/-- Read one given character. -/
def readMark? (mark : Char) : List Char → Option (List Char)
  | [] => none
  | character :: rest => if character = mark then some rest else none

/-- Read a date of the calendar. -/
def readDate? (characters : List Char) : Option (Date × List Char) := do
  let (year, rest) ← readNumber? 4 characters
  let rest ← readMark? '-' rest
  let (month, rest) ← readNumber? 2 rest
  let rest ← readMark? '-' rest
  let (day, rest) ← readNumber? 2 rest
  let date : Date := { year, month, day }
  if date.isValid then some (date, rest) else none

/-- Read hours and minutes, each at most a given number. -/
def readHourMinute? (maxHour : Nat) (characters : List Char) :
    Option (Nat × Nat × List Char) := do
  let (hour, rest) ← readNumber? 2 characters
  let rest ← readMark? ':' rest
  let (minute, rest) ← readNumber? 2 rest
  if hour ≤ maxHour && minute ≤ 59 then some (hour, minute, rest) else none

/-- Read the digits after a point, if there is one. -/
def readFraction? : List Char → Option (List Char × List Char)
  | '.' :: rest =>
    let digits := rest.takeWhile Char.isDigit
    if digits.isEmpty then none else some (digits, rest.dropWhile Char.isDigit)
  | characters => some ([], characters)

/-- Read an offset from universal time in minutes: the letter for none, or a sign with hours and
minutes. -/
def readOffset? : List Char → Option (Int × List Char)
  | 'Z' :: rest | 'z' :: rest => some (0, rest)
  | '+' :: rest => do
    let (hour, minute, rest) ← readHourMinute? 23 rest
    pure (Int.ofNat (hour * 60 + minute), rest)
  | '-' :: rest => do
    let (hour, minute, rest) ← readHourMinute? 23 rest
    pure (-Int.ofNat (hour * 60 + minute), rest)
  | _ => none

end Calendar

end ConfigAudit
