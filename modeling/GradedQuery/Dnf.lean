import GradedQuery.Term

/-!
# Disjunctive normal forms

A disjunction of terms; without terms it is false, and with the empty term it is true.  The terms
always form an antichain: `Dnf.ofTerms` drops every term that contains another one, since the
smaller term already covers it.  One pass finds the minimal terms, because **the terms are visited
from small to large**, so that whatever covers a term has been kept before the term is met.
-/

namespace GradedQuery

/-- A disjunction of terms. -/
structure Dnf where
  terms : OrderedSet Term
  deriving DecidableEq, Inhabited

namespace Dnf

/-- Without terms. -/
def falsity : Dnf := ⟨∅⟩

/-- With the empty term only. -/
def truth : Dnf := ⟨.singleton .empty⟩

/-! ## Absorption -/

/-- The order of visit: by size, and terms of one size in their own order. -/
def visitedBefore (t u : Term) : Bool :=
  match compare t.size u.size with
  | .lt => true
  | .gt => false
  | .eq => (compare t u).isLE

/-- Keeps a visited term unless a kept one covers it, as its first occurrence covers a repeated
one. -/
def keep (kept : List Term) (t : Term) : List Term :=
  if kept.any (·.subset t) then kept else t :: kept

/-- The disjunction of a list of terms. -/
def ofTerms (ts : List Term) : Dnf :=
  ⟨.ofList ((ts.mergeSort visitedBefore).foldl keep [])⟩

/-- The normal form of one literal. -/
def ofLiteral (l : Literal) : Dnf := ofTerms (Term.ofLiteral? l).toList

/-- Disjunction. -/
def or (d e : Dnf) : Dnf := ofTerms (d.terms.toList ++ e.terms.toList)

/-- Conjunction: every term of `d` with every term of `e` that it does not exclude. -/
def and (d e : Dnf) : Dnf :=
  ofTerms (d.terms.toList.flatMap fun t => e.terms.toList.filterMap t.conjoin?)

/-! ## Questions -/

/-- The number of terms. -/
def size (d : Dnf) : Nat := d.terms.size

/-- Whether there is no term, that is, whether the normal form is false. -/
def isFalse (d : Dnf) : Bool := d.terms.isEmpty

/-- Whether the empty term is the only one. -/
def isTrue (d : Dnf) : Bool := d.size == 1 && d.terms.toList.all Term.isEmpty

/-- The literals of all terms, term by term. -/
def literals (d : Dnf) : List Literal := d.terms.toList.flatMap (·.literals.toList)

/-- The truth value of a normal form under an assignment. -/
def holds (s : String → Bool) (d : Dnf) : Bool := d.terms.toList.any (·.holds s)

/-! ## Formula and text -/

/-- The disjunction of the terms' formulas, to the left; `FALSE` without terms. -/
def toFormula (d : Dnf) : Formula :=
  match d.terms.toList.map Term.toFormula with
  | [] => .falsity
  | f :: rest => rest.foldl .or f

/-- The text of a normal form: its terms with bars between them, or `FALSE`. -/
def render (d : Dnf) : String :=
  if d.isFalse then Formula.falseName
  else " | ".intercalate (d.terms.toList.map Term.render)

end Dnf

end GradedQuery
