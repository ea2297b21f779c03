/-!
# Decimal numerals

Plain decimal numerals: the text of a natural number or an integer, and the value of a numeral
read back from text under a bound.
-/

namespace ConfigAudit

namespace Numeral

/-- The decimal digits of a number, without leading zeros. -/
def digits (value : Nat) : List Char :=
  Nat.toDigits 10 value

/-- The value that a run of decimal digits denotes. -/
def value (characters : List Char) : Nat :=
  Nat.ofDigitChars 10 characters 0

/-- The decimal text of a natural number. -/
def text (value : Nat) : String :=
  String.ofList (digits value)

/-- The decimal text of an integer; a minus sign precedes a negative one. -/
def signedText : Int → String
  | .ofNat value => text value
  | .negSucc below => "-" ++ text (below + 1)

/-- The decimal text of a number below `10 ^ width`, filled with zeros on the left. -/
def paddedDigits (width value : Nat) : List Char :=
  let shown := digits value
  List.replicate (width - shown.length) '0' ++ shown

/-- Read one or more decimal digits, after at most one plus sign, as a number below `bound`.
Leading zeros do not matter, and a number that is too large is refused rather than reduced. -/
def read? (bound : Nat) (characters : List Char) : Option Nat :=
  let unsigned :=
    match characters with
    | '+' :: rest => rest
    | _ => characters
  if unsigned.isEmpty || !unsigned.all Char.isDigit then none
  else if value unsigned < bound then some (value unsigned)
  else none

/-- Reading the digits of a number gives the number back. -/
theorem value_digits (number : Nat) : value (digits number) = number :=
  Nat.ofDigitChars_toDigits (by decide) (by decide)

end Numeral

end ConfigAudit
