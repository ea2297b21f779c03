/-!
# Binary floating-point numbers of 64 bits

The finite numbers of the 64-bit binary format, as a sign, a significand and a power of two, with
rounding, product and quotient in exact arithmetic on natural numbers. A number prints as the
shortest decimal that lies in the interval of reals rounding to it, always in positional notation.
-/

namespace ConfigAudit

/-- The finite number `(-1) ^ negative * significand * 2 ^ exponent`.

The significand stays below `2 ^ 53`, and below `2 ^ 52` only at the least exponent `-1074`, so
each value has one form for each sign. -/
structure Binary64 where
  negative : Bool
  significand : Nat
  exponent : Int
deriving DecidableEq, Repr, Inhabited

namespace Binary64

/-- The quotient rounded to the nearest integer; a tie goes to the even one. -/
def roundQuotient (numerator denominator : Nat) : Nat :=
  let quotient := numerator / denominator
  let remainder := numerator % denominator
  if 2 * remainder < denominator then quotient
  else if denominator < 2 * remainder then quotient + 1
  else if quotient % 2 = 0 then quotient
  else quotient + 1

/-- The zero of a sign. -/
def zero (negative : Bool) : Binary64 :=
  ⟨negative, 0, -1074⟩

/-- The power of a base, zero for a negative exponent replaced by one. -/
def powNat (base : Nat) (exponent : Int) : Nat :=
  Nat.pow base exponent.toNat

/-- The least significand of full precision, `2 ^ 52`. -/
def leastFull : Nat :=
  powNat 2 52

/-- The significand of `numerator / denominator` in units of `2 ^ exponent`. -/
def significandAt (numerator denominator : Nat) (exponent : Int) : Nat :=
  roundQuotient (numerator * powNat 2 (-exponent)) (denominator * powNat 2 exponent)

/-- The number nearest to `numerator / denominator`, a tie going to the even significand; none if
it lies beyond the largest finite number. -/
def ofQuotient? (negative : Bool) (numerator denominator : Nat) : Option Binary64 :=
  if numerator = 0 then some (zero negative)
  else
    let guess : Int := (numerator.log2 : Int) - denominator.log2 - 52
    -- the quotient lies between `2 ^ (guess + 51)` and `2 ^ (guess + 53)`
    let scaled := (numerator * powNat 2 (-guess)) / (denominator * powNat 2 guess)
    let fitted := if scaled < leastFull then guess - 1 else guess
    let exponent := max fitted (-1074)
    let significand := significandAt numerator denominator exponent
    let (significand, exponent) :=
      if significand = 2 * leastFull then (leastFull, exponent + 1) else (significand, exponent)
    if exponent > 971 then none else some ⟨negative, significand, exponent⟩

/-- The number nearest to a natural number. -/
def ofNat? (negative : Bool) (value : Nat) : Option Binary64 :=
  ofQuotient? negative value 1

/-- The number nearest to a power of ten, zero and none never being the answer for an exponent
of at most 308. -/
def powerOfTen (exponent : Nat) : Binary64 :=
  (ofNat? false (powNat 10 exponent)).getD (zero false)

/-- The rounded product with a positive factor; none on overflow. -/
def scaleUp? (number factor : Binary64) : Option Binary64 :=
  let exponent := number.exponent + factor.exponent
  ofQuotient? number.negative (number.significand * factor.significand * powNat 2 exponent)
    (powNat 2 (-exponent))

/-- The rounded quotient by a positive divisor. -/
def scaleDown (number divisor : Binary64) : Binary64 :=
  let exponent := number.exponent - divisor.exponent
  (ofQuotient? number.negative (number.significand * powNat 2 exponent)
    (divisor.significand * powNat 2 (-exponent))).getD (zero number.negative)

/-- The number nearest to `coefficient * 10 ^ exponent`; none on overflow. A numeral far outside
the range of the format is decided by its magnitude alone. -/
def ofDecimal? (negative : Bool) (coefficient : Nat) (exponent : Int) : Option Binary64 :=
  if coefficient = 0 then some (zero negative)
  else
    let magnitude : Int := exponent + (Nat.toDigits 10 coefficient).length
    if magnitude > 310 then none
    else if magnitude < -330 then some (zero negative)
    else ofQuotient? negative (coefficient * powNat 10 exponent) (powNat 10 (-exponent))

/-- A reading of `coefficient * 10 ^ exponent` in at most three roundings: the coefficient, a
number below `2 ^ 64`, is rounded first, and the result is then multiplied or divided by the
rounded power of ten, below `10 ^ -308` in two steps. None on overflow.

The result can differ from the nearest number in the last place. -/
def ofDecimalStepwise? (negative : Bool) (coefficient : Nat) (exponent : Int) : Option Binary64 :=
  match ofNat? negative coefficient with
  | none => none
  | some rounded =>
    if coefficient = 0 then some rounded
    else if exponent > 308 then none
    else if exponent ≥ 0 then scaleUp? rounded (powerOfTen exponent.toNat)
    else if exponent ≥ -308 then some (scaleDown rounded (powerOfTen (-exponent).toNat))
    else if exponent ≥ -616 then
      some (scaleDown (scaleDown rounded (powerOfTen 308)) (powerOfTen (-exponent - 308).toNat))
    else some (zero negative)

/-- The real numbers that round to a number, in quarters of its unit `2 ^ exponent`. The ends
belong to the interval iff the significand is even. -/
structure Interval where
  low : Nat
  high : Nat
  closed : Bool

/-- The interval of a number. Below a power of two the neighbours are closer together. -/
def interval (number : Binary64) : Interval :=
  let narrow := number.significand = leastFull ∧ number.exponent > -1074
  { low := 4 * number.significand - (if narrow then 1 else 2)
    high := 4 * number.significand + 2
    closed := number.significand % 2 = 0 }

/-- Compare `decimal * 10 ^ place` with `quarters * 2 ^ (exponent - 2)`. -/
def compareDecimal (decimal : Nat) (place : Int) (quarters : Nat) (exponent : Int) : Ordering :=
  compare (decimal * powNat 10 place * powNat 2 (2 - exponent))
    (quarters * powNat 10 (-place) * powNat 2 (exponent - 2))

/-- Whether the number `decimal * 10 ^ place` rounds to `number`. -/
def roundsTo (number : Binary64) (decimal : Nat) (place : Int) : Bool :=
  let bounds := interval number
  let low := compareDecimal decimal place bounds.low number.exponent
  let high := compareDecimal decimal place bounds.high number.exponent
  if bounds.closed then low != .lt && high != .gt else low == .gt && high == .lt

/-- The exponent of the leading decimal digit of a number that is not zero. -/
def leadingPlace (number : Binary64) : Int :=
  let bits : Int := (number.significand.log2 : Int) + number.exponent
  let guess := bits * 30103 / 100000
  let quarters := 4 * number.significand
  if compareDecimal 1 (guess + 1) quarters number.exponent != .gt then guess + 1
  else if compareDecimal 1 guess quarters number.exponent != .gt then guess
  else guess - 1

/-- The grid point of `place` at or below the number. -/
def floorAt (number : Binary64) (place : Int) : Nat :=
  (number.significand * powNat 2 number.exponent * powNat 10 (-place)) /
    (powNat 10 place * powNat 2 (-number.exponent))

/-- Of the two grid points of `place` around the number the nearer one that rounds to it. -/
def nearestAt? (number : Binary64) (place : Int) : Option Nat :=
  let below := floorAt number place
  let above := below + 1
  -- twice the middle of the two grid points against twice the number
  let belowIsNearer :=
    compareDecimal (below + above) place (8 * number.significand) number.exponent == .gt
  match roundsTo number below place, roundsTo number above place with
  | true, true => some (if belowIsNearer then below else above)
  | true, false => some below
  | false, true => some above
  | false, false => none

/-- The fewest decimal digits that read back as the number, and the place of the last one. -/
def shortest (number : Binary64) : Nat × Int :=
  if number.significand = 0 then (0, 0)
  else
    let leading := leadingPlace number
    let found := (List.range 17).findSome? fun count =>
      let place := leading - Int.ofNat count
      (nearestAt? number place).map fun decimal => (decimal, place)
    found.getD (floorAt number (leading - 16), leading - 16)

/-- Positional decimal notation of `decimal * 10 ^ place`, without a point if nothing but zeros
would follow it. -/
def positional (decimal : Nat) (place : Int) : List Char :=
  let shown := Nat.toDigits 10 decimal
  if decimal = 0 then ['0']
  else if place ≥ 0 then shown ++ List.replicate place.toNat '0'
  else
    let fraction := (-place).toNat
    let padded := List.replicate (fraction + 1 - shown.length) '0' ++ shown
    let (whole, part) := padded.splitAt (padded.length - fraction)
    let part := (part.reverse.dropWhile (· == '0')).reverse
    if part.isEmpty then whole else whole ++ '.' :: part

/-- The shortest decimal text that reads back as the number. -/
def text (number : Binary64) : String :=
  let (decimal, place) := shortest number
  let shown := String.ofList (positional decimal place)
  if number.negative then "-" ++ shown else shown

/-- The decimal text of a number, marked as a fraction even if it is whole. -/
def fractionText (number : Binary64) : String :=
  let shown := text number
  if shown.toList.contains '.' then shown else shown ++ ".0"

/-- Scientific notation of a number by its digits and the exponent of the first of them, which is
written with its sign. -/
def scientific (digits : List Char) (exponent : Int) : List Char :=
  let mantissa :=
    match digits with
    | leading :: next :: rest => leading :: '.' :: next :: rest
    | _ => digits
  let sign := if exponent < 0 then '-' else '+'
  mantissa ++ 'e' :: sign :: Nat.toDigits 10 exponent.natAbs

/-- The decimal text of a number in a compact notation: scientific from `10 ^ 16` on and below
`10 ^ -5`, and otherwise positional and marked as a fraction. -/
def compactText (number : Binary64) : String :=
  let (decimal, place) := shortest number
  let digits := Nat.toDigits 10 decimal
  let exponent := place + Int.ofNat digits.length - 1
  if decimal ≠ 0 ∧ (exponent < -5 ∨ 16 ≤ exponent) then
    let significant := (digits.reverse.dropWhile (· == '0')).reverse
    let shown := String.ofList (scientific significant exponent)
    if number.negative then "-" ++ shown else shown
  else fractionText number

end Binary64

end ConfigAudit
