import GradedQuery.Attribute
import GradedQuery.Grade
import GradedQuery.QueryError

/-!
# Scores

The fuzzy meaning of a plain formula for one object.  The score of an atom is read from the
object, negation is the complement, conjunction the product and disjunction the probabilistic sum.
Every value is kept in [0, 1], at the atoms, where the scores come from outside, and again at each
node.
-/

namespace GradedQuery

/-- The scores of an object, by atom name. -/
abbrev Scores (α : Type) := OrderedMap String α

/-- Something that a query ranks. -/
structure ScoredObject (α : Type) where
  name : String
  scores : Scores α

variable {α : Type} [Grade α]

/-- The score that counts for an atom: 0 where none is given or it is no number, else the given
one moved into [0, 1]; for an atom of a database attribute, 1 from one half on and 0 below. -/
def atomScore (schema : Schema) (naming : Naming) (scores : Scores α) (atom : String) : α :=
  let raw := (scores.get? atom).getD Grade.zero
  let value := if Grade.isNaN raw then Grade.zero else Grade.clamp raw
  match Schema.typeOf schema (naming atom) with
  | .db => if Grade.less value Grade.half then Grade.zero else Grade.one
  | .prox | .text => value

/-- The score of an atom that may be a constant. -/
def constantOrScore (schema : Schema) (naming : Naming) (scores : Scores α) (atom : String) : α :=
  if atom = Formula.trueName then Grade.one
  else if atom = Formula.falseName then Grade.zero
  else atomScore schema naming scores atom

/-- The score of a plain formula. -/
def evaluate (schema : Schema) (naming : Naming) (scores : Scores α) :
    Formula → Except QueryError α
  | .atom name => return Grade.clamp (constantOrScore schema naming scores name)
  | .not f => do
    let x ← evaluate schema naming scores f
    return Grade.clamp (Grade.complement x)
  | .and l r => do
    let x ← evaluate schema naming scores l
    let y ← evaluate schema naming scores r
    return Grade.clamp (x * y)
  | .or l r => do
    let x ← evaluate schema naming scores l
    let y ← evaluate schema naming scores r
    return Grade.clamp (Grade.probabilisticSum x y)
  | .weightedAnd .. => .error (.weighted .evaluator .and)
  | .weightedOr .. => .error (.weighted .evaluator .or)

end GradedQuery
