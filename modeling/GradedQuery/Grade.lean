/-!
# Grades

The arithmetic that scores are computed in.  Evaluation needs little of it: sums, differences and
products, a comparison, and a way to tell values that are no number.  It is kept abstract so that
the same evaluator runs on double-precision numbers and is reasoned about over exact ones, where
the laws of arithmetic hold (`Grade/Extended.lean`).
-/

namespace GradedQuery

/-- An arithmetic for scores. -/
class Grade (α : Type) extends Add α, Sub α, Mul α where
  zero : α
  one : α
  /-- The score from which on a database fact counts as true. -/
  half : α
  /-- Strictly less; false when either side is no number. -/
  less : α → α → Bool
  /-- Whether a value is no number. -/
  isNaN : α → Bool

/-- Double-precision arithmetic. -/
instance : Grade Float where
  zero := 0.0
  one := 1.0
  half := 0.5
  less a b := decide (a < b)
  isNaN := Float.isNaN

namespace Grade

variable {α : Type} [Grade α]

/-- Moves a value that lies outside [0, 1] to the nearer end.  A value that is no number stays. -/
def clamp (x : α) : α :=
  let x := if less x zero then zero else x
  if less one x then one else x

/-- The score of a negation. -/
def complement (x : α) : α := one - x

/-- The score of a disjunction: the probabilistic sum. -/
def probabilisticSum (x y : α) : α := x + y - x * y

end Grade

end GradedQuery
