import GradedQuery.Evaluate

/-!
# Rankings

A query ranks objects by their scores, the best one first.  **Objects with equal scores keep the
order in which they were given**, so a ranking cut off at any length drops, among equals, only later
ones.
-/

namespace GradedQuery

variable {α : Type} [Grade α]

/-- An object's name with its score. -/
structure Ranked (α : Type) where
  name : String
  score : α
  deriving DecidableEq, Repr

/-- Whether `a` may stand before `b`: unless `b` has the greater score. -/
def Ranked.mayPrecede (a b : Ranked α) : Bool := !Grade.less a.score b.score

/-- The score of every object, the best one first; objects with equal scores keep their order. -/
def rank (schema : Schema) (naming : Naming) (f : Formula) (objects : List (ScoredObject α)) :
    Except QueryError (List (Ranked α)) := do
  let ranked ← objects.mapM fun object =>
    return ⟨object.name, ← evaluate schema naming object.scores f⟩
  return ranked.mergeSort Ranked.mayPrecede

end GradedQuery
