import GradedQuery.Formula

/-!
# Literals

An atom or its negation.  Literals are ordered by atom name, the positive one first, and all
printed forms of terms follow that order.
-/

namespace GradedQuery

open Std

/-- An atom name with a polarity. -/
structure Literal where
  atom : String
  negated : Bool
  deriving DecidableEq, Repr, Inhabited

namespace Literal

/-- By atom name, and the positive literal before the negative one. -/
instance : Ord Literal := ⟨compareLex (compareOn atom) (compareOn negated)⟩

instance : TransOrd Literal :=
  inferInstanceAs (TransCmp (compareLex (compareOn atom) (compareOn negated)))

instance : LawfulEqOrd Literal where
  compare_self {l} := show compareLex (compareOn atom) (compareOn negated) l l = .eq from
    ReflCmp.compare_self
  eq_of_compare {a b} h := by
    have ⟨h₁, h₂⟩ := compareLex_eq_eq.1 h
    cases a; cases b
    simp only [Literal.mk.injEq]
    exact ⟨LawfulEqCmp.eq_of_compare h₁, LawfulEqCmp.eq_of_compare h₂⟩

/-- The literal that asserts an atom. -/
def positive (atom : String) : Literal := ⟨atom, false⟩

/-- The literal that denies an atom. -/
def negative (atom : String) : Literal := ⟨atom, true⟩

/-- The literal with the same atom and the other polarity. -/
def complement (l : Literal) : Literal := ⟨l.atom, !l.negated⟩

/-- The positive literal with the same atom. -/
def positiveForm (l : Literal) : Literal := positive l.atom

/-- The truth value of a literal when `s` decides its atom. -/
def holds (s : String → Bool) (l : Literal) : Bool := s l.atom != l.negated

/-- The formula of a literal. -/
def toFormula (l : Literal) : Formula := if l.negated then .not (.atom l.atom) else .atom l.atom

/-- The text of a literal. -/
def render (l : Literal) : String := if l.negated then "!" ++ l.atom else l.atom

@[simp] theorem complement_complement (l : Literal) : l.complement.complement = l := by
  simp [complement]

theorem complement_ne (l : Literal) : l.complement ≠ l := by
  cases l; simp [complement]

@[simp] theorem holds_complement (s : String → Bool) (l : Literal) :
    l.complement.holds s = !l.holds s := by
  cases h : s l.atom <;> cases h' : l.negated <;> simp [holds, complement, h, h']

end Literal

end GradedQuery
