import GradedQuery.Decimal.Binary

/-!
# A fixed number of decimal places

The exact value is rounded to the nearest multiple of the last place; a value half-way between two
goes to the even one.
-/

namespace GradedQuery.Decimal

/-- The integer nearest to `num / den`, the even one of two equally near. -/
def roundDiv (num den : Nat) : Nat :=
  let below := num / den
  let twiceRest := 2 * (num % den)
  if twiceRest < den then below
  else if den < twiceRest then below + 1
  else below + below % 2

/-- Writes `n` units of the last of `places` decimal places. -/
def placePoint (places n : Nat) : String :=
  let fraction := toString (n % Nat.pow 10 places)
  let padding := String.ofList (List.replicate (places - fraction.length) '0')
  toString (n / Nat.pow 10 places) ++ "." ++ padding ++ fraction

/-- The text of a number with `places` decimal places, at least one. -/
def writeFixed (places : Nat) : Decoded → String
  | .nan => "NaN"
  | .infinite negative => if negative then "-inf" else "inf"
  | .finite negative b =>
    let (num, den) := gridQuotient b.significand b.exponent (-places)
    (if negative then "-" else "") ++ placePoint places (roundDiv num den)

end GradedQuery.Decimal
