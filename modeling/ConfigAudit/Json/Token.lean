import ConfigAudit.Json.Basic
import ConfigAudit.Number.Numeral
import ConfigAudit.Number.Width

/-!
# Tokens of a JSON document

Strict JSON: four blanks, no byte order mark, no raw control characters in a text, no lone
surrogates, no number beyond the range of a floating-point number. `Token.scan?` cuts a document
into tokens or refuses it.
-/

namespace ConfigAudit

namespace Json

/-- A token: a bracket, a separator, or a value without parts. -/
inductive Token where
  | openArray
  | closeArray
  | openObject
  | closeObject
  | comma
  | colon
  | text (value : String)
  | number (value : JsonNumber)
  | bool (value : Bool)
  | null
deriving DecidableEq, Repr

namespace Token

/-- The four blanks that may stand between tokens. -/
def isBlank (character : Char) : Bool :=
  character = ' ' || character = '\n' || character = '\t' || character = '\r'

/-- The value of a hexadecimal digit. -/
def hexDigit? (character : Char) : Option Nat :=
  if '0' ≤ character ∧ character ≤ '9' then some (character.toNat - '0'.toNat)
  else if 'a' ≤ character ∧ character ≤ 'f' then some (character.toNat - 'a'.toNat + 10)
  else if 'A' ≤ character ∧ character ≤ 'F' then some (character.toNat - 'A'.toNat + 10)
  else none

/-- The 16-bit unit of four hexadecimal digits. -/
def hexUnit? (first second third fourth : Char) : Option Nat := do
  let a ← hexDigit? first
  let b ← hexDigit? second
  let c ← hexDigit? third
  let d ← hexDigit? fourth
  pure (((a * 16 + b) * 16 + c) * 16 + d)

/-- The first half of a surrogate pair. -/
def isHighSurrogate (unit : Nat) : Bool :=
  0xD800 ≤ unit && unit ≤ 0xDBFF

/-- The character of a unit that is no surrogate. -/
def unitChar? (unit : Nat) : Option Char :=
  if 0xD800 ≤ unit ∧ unit ≤ 0xDFFF then none else some (Char.ofNat unit)

/-- The character of a surrogate pair. -/
def pairChar? (high low : Nat) : Option Char :=
  if 0xDC00 ≤ low ∧ low ≤ 0xDFFF then
    some (Char.ofNat (0x10000 + (high - 0xD800) * 0x400 + (low - 0xDC00)))
  else none

/-- The character that a letter after a backslash stands for. -/
def shortEscape? : Char → Option Char
  | '"' => some '"'
  | '\\' => some '\\'
  | '/' => some '/'
  | 'b' => some '\x08'
  | 'f' => some '\x0c'
  | 'n' => some '\n'
  | 'r' => some '\r'
  | 't' => some '\t'
  | _ => none

/-- Put a character before a text that was read. -/
def prepend (character : Char) : Option (List Char × List Char) → Option (List Char × List Char)
  | none => none
  | some (value, rest) => some (character :: value, rest)

/-- Read a text after its opening quote, up to and with the closing one. -/
def readText? : List Char → Option (List Char × List Char)
  | [] => none
  | character :: rest =>
    if character = '"' then some ([], rest)
    else if character = '\\' then
      match rest with
      | 'u' :: first :: second :: third :: fourth :: rest =>
        match hexUnit? first second third fourth with
        | none => none
        | some unit =>
          if isHighSurrogate unit then
            match rest with
            | '\\' :: 'u' :: first :: second :: third :: fourth :: rest =>
              match (hexUnit? first second third fourth).bind (pairChar? unit) with
              | none => none
              | some decoded => prepend decoded (readText? rest)
            | _ => none
          else
            match unitChar? unit with
            | none => none
            | some decoded => prepend decoded (readText? rest)
      | letter :: rest =>
        match shortEscape? letter with
        | none => none
        | some decoded => prepend decoded (readText? rest)
      | [] => none
    else if character.toNat < 0x20 then none
    else prepend character (readText? rest)

/-- Add digits to a coefficient as long as it stays below `2 ^ 64`; the digits left over begin
with the first one that does not fit. -/
def extendCoefficient (coefficient : Nat) : List Char → Nat × List Char
  | [] => (coefficient, [])
  | digit :: rest =>
    let extended := coefficient * 10 + (digit.toNat - '0'.toNat)
    if extended < Width.span 64 then extendCoefficient extended rest
    else (coefficient, digit :: rest)

/-- The parts of a number: sign, whole digits, digits after the point, exponent. -/
structure NumberParts where
  negative : Bool
  whole : List Char
  fraction : Option (List Char)
  exponent : Option Int

/-- The number that a numeral denotes.

A numeral without fraction and exponent is whole if it fits. Of any other the leading digits below
`2 ^ 64` make the coefficient: whole digits that no longer fit count as powers of ten, and
digits after the point that no longer fit do not count at all. None on overflow. -/
def NumberParts.number? (numeral : NumberParts) : Option JsonNumber :=
  let (coefficient, wholeLeft) := extendCoefficient 0 numeral.whole
  match numeral.fraction, numeral.exponent, wholeLeft with
  | none, none, [] =>
    if !numeral.negative then some (.whole coefficient)
    else if coefficient = 0 ∨ coefficient > Width.span 63 then
      (Binary64.ofNat? true coefficient).map .fraction
    else some (.whole (-coefficient))
  | fraction, exponent, wholeLeft =>
    let digits := fraction.getD []
    let (coefficient, fractionLeft) := extendCoefficient coefficient digits
    let place : Int := wholeLeft.length - (digits.length - fractionLeft.length) + exponent.getD 0
    (Binary64.ofDecimalStepwise? numeral.negative coefficient place).map .fraction

/-- Read one or more digits. -/
def readDigits? (characters : List Char) : Option (List Char × List Char) :=
  let digits := characters.takeWhile Char.isDigit
  if digits.isEmpty then none else some (digits, characters.dropWhile Char.isDigit)

/-- Read the whole digits of a number: a zero that stands alone, or digits not led by one. -/
def readWhole? : List Char → Option (List Char × List Char)
  | '0' :: rest => some (['0'], rest)
  | characters => readDigits? characters

/-- Read the digits after a point, if there is one. -/
def readFraction? : List Char → Option (Option (List Char) × List Char)
  | '.' :: rest => (readDigits? rest).map fun read => (some read.1, read.2)
  | characters => some (none, characters)

/-- Read the digits of an exponent after its sign. -/
def readExponentDigits? (negative : Bool) (characters : List Char) :
    Option (Option Int × List Char) :=
  (readDigits? characters).map fun read =>
    let magnitude : Int := Numeral.value read.1
    (some (if negative then -magnitude else magnitude), read.2)

/-- Read an exponent, if there is one. -/
def readExponent? : List Char → Option (Option Int × List Char)
  | 'e' :: '+' :: rest | 'E' :: '+' :: rest => readExponentDigits? false rest
  | 'e' :: '-' :: rest | 'E' :: '-' :: rest => readExponentDigits? true rest
  | 'e' :: rest | 'E' :: rest => readExponentDigits? false rest
  | characters => some (none, characters)

/-- Read a number after its sign. -/
def readUnsigned? (negative : Bool) (characters : List Char) :
    Option (JsonNumber × List Char) := do
  let (whole, rest) ← readWhole? characters
  let (fraction, rest) ← readFraction? rest
  let (exponent, rest) ← readExponent? rest
  let number ← NumberParts.number? { negative, whole, fraction, exponent }
  pure (number, rest)

/-- Read the token at the start of a text that does not begin with a blank. -/
def next? : List Char → Option (Token × List Char)
  | '[' :: rest => some (.openArray, rest)
  | ']' :: rest => some (.closeArray, rest)
  | '\x7b' :: rest => some (.openObject, rest)
  | '\x7d' :: rest => some (.closeObject, rest)
  | ',' :: rest => some (.comma, rest)
  | ':' :: rest => some (.colon, rest)
  | '"' :: rest => (readText? rest).map fun read => (.text (String.ofList read.1), read.2)
  | 't' :: 'r' :: 'u' :: 'e' :: rest => some (.bool true, rest)
  | 'f' :: 'a' :: 'l' :: 's' :: 'e' :: rest => some (.bool false, rest)
  | 'n' :: 'u' :: 'l' :: 'l' :: rest => some (.null, rest)
  | '-' :: rest => (readUnsigned? true rest).map fun read => (.number read.1, read.2)
  | characters => (readUnsigned? false characters).map fun read => (.number read.1, read.2)

theorem exists_read_of_prepend {character : Char} {read : Option (List Char × List Char)}
    {value rest : List Char} (prepended : prepend character read = some (value, rest)) :
    ∃ tail, read = some (tail, rest) := by
  cases read with
  | none => simp [prepend] at prepended
  | some read =>
    obtain ⟨tail, rest⟩ := read
    simp_all [prepend]

theorem readText?_shorter {characters value rest : List Char}
    (read : readText? characters = some (value, rest)) : rest.length < characters.length := by
  fun_induction readText? characters generalizing value rest <;>
    simp only [List.length_cons, List.length_nil] <;>
    grind [→ exists_read_of_prepend]

theorem readDigits?_shorter {characters digits rest : List Char}
    (read : readDigits? characters = some (digits, rest)) : rest.length < characters.length := by
  have lengths := congrArg List.length
    (List.takeWhile_append_dropWhile (p := Char.isDigit) (l := characters))
  grind [readDigits?, List.isEmpty_iff, List.length_eq_zero_iff]

theorem readWhole?_shorter {characters digits rest : List Char}
    (read : readWhole? characters = some (digits, rest)) : rest.length < characters.length := by
  unfold readWhole? at read
  split at read
  · grind
  · exact readDigits?_shorter read

theorem readFraction?_length_le {characters rest : List Char} {digits : Option (List Char)}
    (read : readFraction? characters = some (digits, rest)) :
    rest.length ≤ characters.length := by
  unfold readFraction? at read
  split at read
  · obtain ⟨found, readDigits, same⟩ := Option.map_eq_some_iff.1 read
    have shorter := readDigits?_shorter readDigits
    grind
  · grind

theorem readExponent?_length_le {characters rest : List Char} {exponent : Option Int}
    (read : readExponent? characters = some (exponent, rest)) :
    rest.length ≤ characters.length := by
  have digits {negative : Bool} {signed : List Char}
      (readSigned : readExponentDigits? negative signed = some (exponent, rest)) :
      rest.length < signed.length := by
    obtain ⟨found, readDigits, same⟩ := Option.map_eq_some_iff.1 readSigned
    have shorter := readDigits?_shorter readDigits
    grind
  unfold readExponent? at read
  split at read <;> grind

theorem readUnsigned?_shorter {negative : Bool} {characters rest : List Char}
    {number : JsonNumber}
    (read : readUnsigned? negative characters = some (number, rest)) :
    rest.length < characters.length := by
  simp only [readUnsigned?, Option.bind_eq_bind, Option.bind_eq_some_iff, Prod.exists,
    Option.pure_def, Option.some.injEq, Prod.mk.injEq] at read
  obtain ⟨_, afterWhole, whole, _, afterFraction, fraction, _, afterExponent, exponent, _, _, _,
    rfl⟩ := read
  have first := readWhole?_shorter whole
  have second := readFraction?_length_le fraction
  have third := readExponent?_length_le exponent
  omega

/-- A token takes at least one character. -/
theorem next?_shorter {characters rest : List Char} {token : Token}
    (read : next? characters = some (token, rest)) : rest.length < characters.length := by
  unfold next? at read
  split at read
  case h_7 =>
    obtain ⟨found, readText, same⟩ := Option.map_eq_some_iff.1 read
    have shorter := readText?_shorter readText
    grind
  case h_11 =>
    obtain ⟨found, readNumber, same⟩ := Option.map_eq_some_iff.1 read
    have shorter := readUnsigned?_shorter readNumber
    grind
  case h_12 =>
    obtain ⟨found, readNumber, same⟩ := Option.map_eq_some_iff.1 read
    have shorter := readUnsigned?_shorter readNumber
    grind
  all_goals grind

/-- Cut a document into its tokens. -/
def scan? : List Char → Option (List Token)
  | [] => some []
  | character :: rest =>
    if isBlank character then scan? rest
    else
      match _read : next? (character :: rest) with
      | none => none
      | some (token, rest) => (scan? rest).map (token :: ·)
termination_by characters => characters.length
decreasing_by
  · simp
  · exact next?_shorter _read

end Token

end Json

end ConfigAudit
