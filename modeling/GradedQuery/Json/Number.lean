import GradedQuery.Decimal.Numeral
import GradedQuery.Json.Refusal

/-!
# Numbers in JSON texts

A number that is written as an integer and fits 64 bits is one.  Every other number becomes a
double-precision number, and that is not always the nearest one: **the digits count as far as they
fit 64 bits, and what they denote is multiplied or divided by powers of ten, with a rounding at each
step**.  A number that becomes infinite on the way is refused.
-/

namespace GradedQuery.Json

/-- A number as it is written: an integer that fits 64 bits, or a double-precision number. -/
inductive Number where
  | integer (n : Int)
  | float (x : Float)

/-- A double-precision number with a sign; a negative zero keeps it. -/
def signed (negative : Bool) (x : Float) : Float := if negative then -x else x

/-- The double-precision number nearest to a natural of 64 bits. -/
def ofWord (n : Nat) : Float := n.toUInt64.toFloat

/-- The double-precision number of a number. -/
def Number.toFloat : Number → Float
  | .integer n => signed (n < 0) (ofWord n.natAbs)
  | .float x => x

/-- How messages name a number. -/
def Number.shape : Number → Shape
  | .integer n => .integer n
  | .float x => .float x

/-- The number of a list of decimal digits. -/
def digitsValue (ds : List Char) : Nat := ds.foldl (fun n c => 10 * n + (c.toNat - '0'.toNat)) 0

/-- Puts digits behind the significand `n`, up to the first one with which it would not fit 64 bits.
Yields the significand and how many digits it has taken. -/
def takeDigits (n : Nat) : List Char → Nat × Nat
  | [] => (n, 0)
  | d :: ds =>
    let longer := 10 * n + digitsValue [d]
    if longer < Decimal.wordCount then
      let (m, count) := takeDigits longer ds
      (m, count + 1)
    else (n, 0)

/-- The greatest exponent for which the power of ten is finite. -/
def greatestPower : Nat := 308

/-- The double-precision number nearest to `10 ^ k`. -/
def powerOfTen (k : Nat) : Float := Float.ofScientific 1 false k

/-- `x · 10 ^ exponent`, in steps that can be taken; none if it is infinite. -/
def scale? (x : Float) (exponent : Int) : Option Float :=
  if exponent.natAbs ≤ greatestPower then
    if 0 ≤ exponent then
      let y := x * powerOfTen exponent.natAbs
      if y.isInf then none else some y
    else some (x / powerOfTen exponent.natAbs)
  else if x == 0.0 then some x
  else if 0 ≤ exponent then none
  else scale? (x / powerOfTen greatestPower) (exponent + greatestPower)
termination_by exponent.natAbs
decreasing_by
  simp only [greatestPower] at *
  omega

end GradedQuery.Json
