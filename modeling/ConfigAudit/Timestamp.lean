import ConfigAudit.Calendar

/-!
# Timestamps

A point in time with an offset from universal time, as reports write it: date, time of day, an
optional fraction of a second, and the offset in hours and minutes. A leap second is read as the
last nanosecond of the second before it, and only where one can fall.
-/

namespace ConfigAudit

namespace Timestamp

/-- The nanoseconds of a second. -/
def nanosecondBound : Nat := 1000000000

/-- The least offset in minutes, in absolute terms, that is too large. -/
def offsetBound : Nat := 1440

/-- Whether the parts of a timestamp lie in their ranges. -/
def fits (date : Date) (hour minute second nanosecond : Nat) (offset : Int) : Bool :=
  date.isValid && hour ≤ 23 && minute ≤ 59 && second ≤ 59 && nanosecond < nanosecondBound &&
    offset.natAbs < offsetBound

end Timestamp

/-- A point in time, told by the clock at an offset from universal time. -/
structure Timestamp where
  date : Date
  hour : Nat
  minute : Nat
  second : Nat
  nanosecond : Nat
  /-- The offset of the clock in minutes. -/
  offset : Int
  inRange : Timestamp.fits date hour minute second nanosecond offset = true := by decide
deriving DecidableEq, Repr

namespace Timestamp

/-- The start of the year 1970. -/
def epoch : Timestamp where
  date := ⟨1970, 1, 1⟩
  hour := 0
  minute := 0
  second := 0
  nanosecond := 0
  offset := 0

instance : Inhabited Timestamp := ⟨epoch⟩

/-- The fraction of a second without zeros at its end, after a point; nothing for a whole second. -/
def fractionCharacters (nanosecond : Nat) : List Char :=
  if nanosecond = 0 then []
  else
    let digits := Numeral.paddedDigits 9 nanosecond
    '.' :: (digits.reverse.dropWhile (· == '0')).reverse

/-- The offset, as a letter if there is none. -/
def offsetCharacters (offset : Int) : List Char :=
  if offset = 0 then ['Z']
  else
    (if offset < 0 then '-' else '+') :: Numeral.paddedDigits 2 (offset.natAbs / 60) ++
      ':' :: Numeral.paddedDigits 2 (offset.natAbs % 60)

/-- The text of a timestamp. -/
def text (timestamp : Timestamp) : String :=
  String.ofList <|
    timestamp.date.characters ++ 'T' :: Numeral.paddedDigits 2 timestamp.hour ++
      ':' :: Numeral.paddedDigits 2 timestamp.minute ++
      ':' :: Numeral.paddedDigits 2 timestamp.second ++
      fractionCharacters timestamp.nanosecond ++ offsetCharacters timestamp.offset

/-- The number of nanoseconds of a fraction, of which nine digits count. -/
def nanosecondOf (digits : List Char) : Nat :=
  let counted := digits.take 9
  Numeral.value counted * Nat.pow 10 (9 - counted.length)

/-- Whether a leap second can fall into a minute: the last one, by universal time, of a month. -/
def isLeapMinute (date : Date) (hour minute : Nat) (offset : Int) : Bool :=
  let universal : Int := Int.ofNat (hour * 60 + minute) - offset
  if universal < 0 then universal + 1440 == 1439 && date.day == 1
  else if universal ≥ 1440 then universal - 1440 == 1439 && date.next.isMonthEnd
  else universal == 1439 && date.isMonthEnd

/-- The timestamp of its parts, if they lie in their ranges. -/
def ofParts? (date : Date) (hour minute second nanosecond : Nat) (offset : Int) :
    Option Timestamp :=
  if inRange : fits date hour minute second nanosecond offset = true then
    some { date, hour, minute, second, nanosecond, offset, inRange }
  else none

/-- The universal time so many seconds after the start of the year 1970. -/
def ofEpochSeconds (seconds nanosecond : Nat) : Timestamp :=
  let time := seconds % 86400
  (ofParts? (Date.ofEpochDays (seconds / 86400)) (time / 3600) (time / 60 % 60) (time % 60)
    nanosecond 0).getD epoch

/-- The timestamp of its parts, in which a leap second may stand. -/
def ofReading? (date : Date) (hour minute second nanosecond : Nat) (offset : Int) :
    Option Timestamp :=
  if second = 60 then
    if isLeapMinute date hour minute offset then
      ofParts? date hour minute 59 (nanosecondBound - 1) offset
    else none
  else ofParts? date hour minute second nanosecond offset

/-- Read the separator between date and time of day, any one character of ASCII. -/
def readSeparator? : List Char → Option (List Char)
  | [] => none
  | separator :: rest => if separator.toNat < 128 then some rest else none

/-- Read a timestamp. -/
def read? (characters : List Char) : Option Timestamp := do
  let (date, rest) ← Calendar.readDate? characters
  let rest ← readSeparator? rest
  let (hour, minute, rest) ← Calendar.readHourMinute? 23 rest
  let rest ← Calendar.readMark? ':' rest
  let (second, rest) ← Calendar.readNumber? 2 rest
  let (fraction, rest) ← Calendar.readFraction? rest
  let (offset, rest) ← Calendar.readOffset? rest
  if rest.isEmpty then ofReading? date hour minute second (nanosecondOf fraction) offset else none

/-- Read a timestamp from the whole of a text. -/
def parse? (text : String) : Option Timestamp :=
  read? text.toList

end Timestamp

end ConfigAudit
