import ConfigAudit.Calendar
import ConfigAudit.Toml.Basic

/-!
# Bare values of TOML

A value without quotes is a truth value, a number, or a date and time. An underscore may stand
between two digits of a number, and a decimal number has no leading zeros.
-/

namespace ConfigAudit

namespace Toml

namespace Scalar

/-- The digits of a run in which single underscores may separate digits. -/
def digits? (isDigit : Char → Bool) : List Char → Option (List Char)
  | [] => none
  | [digit] => if isDigit digit then some [digit] else none
  | digit :: '_' :: rest =>
    if isDigit digit then (digits? isDigit rest).map (digit :: ·) else none
  | digit :: rest => if isDigit digit then (digits? isDigit rest).map (digit :: ·) else none

/-- The digits of a decimal number that is not led by a superfluous zero. -/
def wholeDigits? (characters : List Char) : Option (List Char) := do
  let digits ← digits? Char.isDigit characters
  match digits with
  | '0' :: _ :: _ => none
  | digits => some digits

/-- The value of a digit of any base up to 16. -/
def digitValue (character : Char) : Nat :=
  if character.isDigit then character.toNat - '0'.toNat
  else character.toLower.toNat - 'a'.toNat + 10

/-- Whether a character is a digit of a base up to 16. -/
def isDigitOf (base : Nat) (character : Char) : Bool :=
  (character.isDigit || ('a' ≤ character && character ≤ 'f') ||
    ('A' ≤ character && character ≤ 'F')) && digitValue character < base

/-- The number that digits of a base denote. -/
def based? (base : Nat) (characters : List Char) : Option Toml := do
  let digits ← digits? (isDigitOf base) characters
  pure (.integer (Int.ofNat (digits.foldl (fun value digit => value * base + digitValue digit) 0)))

/-- The sign at the start of a number and what follows it. -/
def splitSign : List Char → Bool × List Char
  | '-' :: rest => (true, rest)
  | '+' :: rest => (false, rest)
  | characters => (false, characters)

/-- The value of an exponent. -/
def exponent? (characters : List Char) : Option Int := do
  let (negative, rest) := splitSign characters
  let digits ← digits? Char.isDigit rest
  let magnitude : Int := Numeral.value digits
  pure (if negative then -magnitude else magnitude)

/-- The nearest finite number to a numeral. -/
def nearest (negative : Bool) (whole fraction : List Char) (exponent : Int) : Toml :=
  match Binary64.ofDecimal? negative (Numeral.value (whole ++ fraction))
      (exponent - fraction.length) with
  | some value => .float (.finite value)
  | none => .float .tooLarge

/-- The number of an unsigned decimal numeral. -/
def decimal? (negative : Bool) (characters : List Char) : Option Toml := do
  let (mantissa, exponentPart) := characters.span fun character =>
    character != 'e' && character != 'E'
  let (wholePart, fractionPart) := mantissa.span (· != '.')
  let whole ← wholeDigits? wholePart
  match fractionPart, exponentPart with
  | [], [] =>
    let magnitude : Int := Numeral.value whole
    pure (.integer (if negative then -magnitude else magnitude))
  | [], _ :: exponentDigits => do
    let exponent ← exponent? exponentDigits
    pure (nearest negative whole [] exponent)
  | _ :: fractionDigits, [] => do
    let fraction ← digits? Char.isDigit fractionDigits
    pure (nearest negative whole fraction 0)
  | _ :: fractionDigits, _ :: exponentDigits => do
    let fraction ← digits? Char.isDigit fractionDigits
    let exponent ← exponent? exponentDigits
    pure (nearest negative whole fraction exponent)

/-- The number of a numeral. Only a decimal one may have a sign. -/
def number? (characters : List Char) : Option Toml :=
  match characters with
  | '0' :: 'x' :: rest => based? 16 rest
  | '0' :: 'o' :: rest => based? 8 rest
  | '0' :: 'b' :: rest => based? 2 rest
  | _ =>
    let (negative, rest) := splitSign characters
    match rest with
    | ['i', 'n', 'f'] => some (.float (.infinite negative))
    | ['n', 'a', 'n'] => some (.float .notANumber)
    | _ => decimal? negative rest

/-- Read a time of day. Its seconds may be missing. -/
def readTime? (characters : List Char) : Option (List Char) := do
  let (_, _, rest) ← Calendar.readHourMinute? 23 characters
  match rest with
  | ':' :: rest => do
    let (second, rest) ← Calendar.readNumber? 2 rest
    if second ≤ 60 then
      let (_, rest) ← Calendar.readFraction? rest
      pure rest
    else none
  | rest => pure rest

/-- Whether an offset, or nothing, is left. -/
def isOffset (characters : List Char) : Bool :=
  characters.isEmpty ||
    match Calendar.readOffset? characters with
    | some (_, rest) => rest.isEmpty
    | none => false

/-- Whether a text is a date, a time of day, or both with or without an offset. -/
def isMoment (characters : List Char) : Bool :=
  match Calendar.readDate? characters with
  | some (_, []) => true
  | some (_, separator :: rest) =>
    (separator == 'T' || separator == 't' || separator == ' ') &&
      match readTime? rest with
      | some rest => isOffset rest
      | none => false
  | none => readTime? characters == some []

/-- The value of a bare text. -/
def read? (characters : List Char) : Option Toml :=
  if characters == "true".toList then some (.bool true)
  else if characters == "false".toList then some (.bool false)
  else if isMoment characters then some (.moment (String.ofList characters))
  else number? characters

/-- Whether a text is a date without a time of day, which a blank and a time may follow. -/
def isDate (characters : List Char) : Bool :=
  match Calendar.readDate? characters with
  | some (_, []) => true
  | _ => false

end Scalar

end Toml

end ConfigAudit
