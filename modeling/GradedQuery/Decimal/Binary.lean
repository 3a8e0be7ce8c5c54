/-!
# Double-precision numbers as exact fractions

A finite double-precision number is an integer times a power of two.  Everything that is written
or read in decimal goes through this view, in exact arithmetic on natural numbers.
-/

namespace GradedQuery.Decimal

/-- The number `significand · 2 ^ exponent`. -/
structure Binary where
  significand : Nat
  exponent : Int
  deriving DecidableEq, Repr

/-- What a bit pattern stands for. -/
inductive Decoded where
  | nan
  | infinite (negative : Bool)
  | finite (negative : Bool) (magnitude : Binary)
  deriving DecidableEq, Repr

/-- The weight of the sign bit, `2 ^ 63`. -/
def signWeight : Nat := 0x8000000000000000

/-- The weight of the lowest bit of the exponent, `2 ^ 52`.  Fractions lie below it, and it is the
significand of a power of two. -/
def exponentWeight : Nat := 0x10000000000000

/-- The number of values that the exponent field takes, `2 ^ 11`.  The last one marks what is not
finite. -/
def exponentCount : Nat := 2048

/-- The exponent of the smallest positive numbers, and of all that are as finely spaced. -/
def leastExponent : Int := -1074

/-- Reads sign, exponent and fraction out of a bit pattern. -/
def decode (bits : UInt64) : Decoded :=
  let n := bits.toNat
  let negative := n / signWeight = 1
  let biased := n / exponentWeight % exponentCount
  let fraction := n % exponentWeight
  if biased = exponentCount - 1 then if fraction = 0 then .infinite negative else .nan
  else if biased = 0 then .finite negative ⟨fraction, leastExponent⟩
  else .finite negative ⟨exponentWeight + fraction, leastExponent + (Int.ofNat biased - 1)⟩

/-- The quotient of `m · 2 ^ e` by `10 ^ k`, as a numerator and a denominator. -/
def gridQuotient (m : Nat) (e k : Int) : Nat × Nat :=
  (m * Nat.pow 2 e.toNat * Nat.pow 10 (-k).toNat, Nat.pow 2 (-e).toNat * Nat.pow 10 k.toNat)

end GradedQuery.Decimal
