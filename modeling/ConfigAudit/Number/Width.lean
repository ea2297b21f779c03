/-!
# Integers of a width

The integers that fit so many bits, without a sign or in two's complement.
-/

namespace ConfigAudit

namespace Width

/-- The number of values that so many bits can hold. -/
def span (bits : Nat) : Nat :=
  Nat.pow 2 bits

/-- Whether an integer fits so many bits without a sign. -/
def fitsUnsigned (bits : Nat) (value : Int) : Bool :=
  0 ≤ value && value < span bits

/-- Whether an integer fits so many bits in two's complement. -/
def fitsSigned (bits : Nat) (value : Int) : Bool :=
  -span (bits - 1) ≤ value && value < span (bits - 1)

end Width

end ConfigAudit
