import GradedQuery.Dnf
import GradedQuery.QueryError

/-!
# Normal forms of formulas

Negations are pushed down to the atoms on the way: the normal form of a negated conjunction is the
disjunction of the negated parts, and the other way round.  Contradictory and covered terms
disappear at every step, so that no term is left of a contradiction.
-/

namespace GradedQuery

namespace Dnf

/-- Conjunction, or disjunction under a negation. -/
def meet (negated : Bool) (d e : Dnf) : Dnf := if negated then d.or e else d.and e

/-- Disjunction, or conjunction under a negation. -/
def join (negated : Bool) (d e : Dnf) : Dnf := if negated then d.and e else d.or e

/-- The normal form of a formula, or of its negation.  Where weighted connectives are left, the
first one from the left is the failure. -/
def ofSigned (negated : Bool) : Formula → Except Connective Dnf
  | .atom name => .ok (ofLiteral ⟨name, negated⟩)
  | .not f => ofSigned (!negated) f
  | .and l r => do return meet negated (← ofSigned negated l) (← ofSigned negated r)
  | .or l r => do return join negated (← ofSigned negated l) (← ofSigned negated r)
  | .weightedAnd .. => .error .and
  | .weightedOr .. => .error .or

/-- The normal form of a plain formula, computed on behalf of a stage. -/
def ofFormulaIn (stage : Stage) (f : Formula) : Except QueryError Dnf :=
  (ofSigned false f).mapError (.weighted stage)

/-- The normal form of a plain formula. -/
def ofFormula (f : Formula) : Except QueryError Dnf := ofFormulaIn .dnfConversion f

end Dnf

end GradedQuery
