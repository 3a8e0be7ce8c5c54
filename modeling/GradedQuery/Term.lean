import GradedQuery.Literal

/-!
# Terms

A term is a conjunction of literals; without literals it is true.  The constants never occur in
it: `Term.ofLiteral?` turns a true constant into the empty term and yields no term for a false
one.  Nor does a literal together with its complement, because `Term.conjoin?` yields no term
then.
-/

namespace GradedQuery

open Std

/-- A conjunction of literals. -/
structure Term where
  literals : OrderedSet Literal
  deriving DecidableEq, Inhabited

namespace Term

/-- Terms are ordered lexicographically by their literals. -/
instance : Ord Term := ⟨compareOn literals⟩

instance : TransOrd Term := inferInstanceAs (TransCmp (compareOn literals))

instance : LawfulEqOrd Term where
  compare_self {t} := show compare t.literals t.literals = .eq from ReflCmp.compare_self
  eq_of_compare {t u} h := by
    replace h : compare t.literals u.literals = .eq := h
    have := LawfulEqCmp.eq_of_compare h
    cases t; cases u; cases this; rfl

/-- The term without literals, which is true. -/
def empty : Term := ⟨∅⟩

/-- The number of literals. -/
def size (t : Term) : Nat := t.literals.size

/-- Whether there is no literal. -/
def isEmpty (t : Term) : Bool := t.literals.isEmpty

/-- Whether a literal belongs to a term. -/
def contains (t : Term) (l : Literal) : Bool := l ∈ t.literals

/-- Whether every literal of `t` belongs to `u`. -/
def subset (t u : Term) : Bool := t.literals.subset u.literals

/-- Whether some literal of `t` is the complement of one of `u`. -/
def excludes (t u : Term) : Bool := t.literals.toList.any (u.contains ·.complement)

/-- `w` with one more literal; none if `t` has the complement of that literal. -/
def add? (t w : Term) (l : Literal) : Option Term :=
  if t.contains l.complement then none else some ⟨w.literals.insert l⟩

/-- The conjunction of two terms.  The literals of `u` are added to `t` one after the other; there
is none as soon as `t` has the complement of one of them. -/
def conjoin? (t u : Term) : Option Term := u.literals.toList.foldlM t.add? t

/-- The term of one literal, with the constants folded: none for a false one. -/
def ofLiteral? (l : Literal) : Option Term :=
  if l.atom = Formula.trueName then if l.negated then none else some empty
  else if l.atom = Formula.falseName then if l.negated then some empty else none
  else some ⟨.singleton l⟩

/-- The conjunction of a list of literals; none if it is contradictory. -/
def ofLiterals? (ls : List Literal) : Option Term :=
  ls.foldlM (fun t l => do t.conjoin? (← ofLiteral? l)) empty

/-- The term without one literal. -/
def without (t : Term) (l : Literal) : Term := ⟨t.literals.erase l⟩

/-- The truth value of a term under an assignment. -/
def holds (s : String → Bool) (t : Term) : Bool := t.literals.toList.all (·.holds s)

/-- The conjunction of the literals, to the left; `TRUE` without literals. -/
def toFormula (t : Term) : Formula :=
  match t.literals.toList.map Literal.toFormula with
  | [] => .truth
  | f :: rest => rest.foldl .and f

/-- The text of a term: its literals in braces, or `TRUE`. -/
def render (t : Term) : String :=
  if t.isEmpty then Formula.trueName
  else "\x7b" ++ ", ".intercalate (t.literals.toList.map Literal.render) ++ "\x7d"

end Term

end GradedQuery
