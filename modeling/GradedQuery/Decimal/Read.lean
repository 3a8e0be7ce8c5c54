/-!
# Reading decimals

A decimal number becomes the nearest double-precision number.  Exponents may be of any size: what
lies beyond the greatest finite number is refused, and what lies far below the least positive one
is zero, before any power of ten is computed.
-/

namespace GradedQuery.Decimal

/-- The number of decimal digits of a positive number; 0 has one. -/
def digitCount (n : Nat) : Nat := (toString n).length

/-- The double-precision number nearest to `digits · 10 ^ exponent`; none if it is infinite. -/
def nearest? (digits : Nat) (exponent : Int) : Option Float :=
  let leading := exponent + digitCount digits
  if digits = 0 ∨ leading < -330 then some 0.0
  else if 310 < leading then none
  else
    let x := Float.ofScientific digits (exponent < 0) exponent.natAbs
    if x.isInf then none else some x

end GradedQuery.Decimal
