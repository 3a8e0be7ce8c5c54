import GradedQuery.Grade

/-!
# Exact grades

The rational numbers with two infinities and a value that is no number.  On rationals the
arithmetic is exact, and the special values follow the usual conventions: an operation without a
meaningful value, such as the difference of two equal infinities, is no number, and a value that is
no number is less than nothing.  Statements about scores that speak of exact arithmetic are
statements about this instance of `Grade`.
-/

namespace GradedQuery

/-- A rational number, an infinity or no number. -/
inductive Extended where
  | finite (q : Rat)
  | posInf
  | negInf
  | nan
  deriving DecidableEq, Repr, Inhabited

namespace Extended

/-- The value with the other sign. -/
def neg : Extended → Extended
  | finite q => finite (-q)
  | posInf => negInf
  | negInf => posInf
  | nan => nan

/-- The sum. -/
def add : Extended → Extended → Extended
  | finite p, finite q => finite (p + q)
  | nan, _ | _, nan => nan
  | posInf, negInf | negInf, posInf => nan
  | posInf, _ | _, posInf => posInf
  | negInf, _ | _, negInf => negInf

/-- The infinity with the sign of `q`; no number for zero. -/
def infinityTimes (q : Rat) : Extended :=
  if 0 < q then posInf else if q < 0 then negInf else nan

/-- The product. -/
def mul : Extended → Extended → Extended
  | finite p, finite q => finite (p * q)
  | nan, _ | _, nan => nan
  | posInf, finite q | finite q, posInf => infinityTimes q
  | negInf, finite q | finite q, negInf => (infinityTimes q).neg
  | posInf, posInf | negInf, negInf => posInf
  | posInf, negInf | negInf, posInf => negInf

/-- Strictly less. -/
def less : Extended → Extended → Bool
  | finite p, finite q => p < q
  | negInf, finite _ | negInf, posInf | finite _, posInf => true
  | _, _ => false

/-- Exact arithmetic. -/
instance : Grade Extended where
  add := add
  sub a b := a.add b.neg
  mul := mul
  zero := finite 0
  one := finite 1
  half := finite (1 / 2)
  less := less
  isNaN a := a = nan

@[simp] theorem finite_add (p q : Rat) : finite p + finite q = finite (p + q) := rfl

@[simp] theorem finite_sub (p q : Rat) : finite p - finite q = finite (p - q) := by
  rw [Rat.sub_eq_add_neg]; rfl

@[simp] theorem finite_mul (p q : Rat) : finite p * finite q = finite (p * q) := rfl

end Extended

end GradedQuery
