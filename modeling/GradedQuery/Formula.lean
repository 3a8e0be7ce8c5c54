import GradedQuery.OrderedSet

/-!
# Formulas

A query is a formula over named atoms.  Besides the connectives of propositional logic there are
two *weighted* ones, in which a weight atom decides for each side whether it counts:

* `WAND(θ₁,θ₂,L,R)` requires each side only if its weight holds;
* `WOR(θ₁,θ₂,L,R)` lets each side contribute only if its weight holds.

`Formula.holds` is the crisp meaning of a formula under an assignment of truth values to names,
`Formula.render` its canonical text, and `Formula.expand` turns the weighted connectives into
the plain ones.
-/

namespace GradedQuery

/-- A query formula.  The atoms `TRUE` and `FALSE` are constants. -/
inductive Formula where
  | atom (name : String)
  | not (sub : Formula)
  | and (left right : Formula)
  | or (left right : Formula)
  | weightedAnd (theta₁ theta₂ : String) (left right : Formula)
  | weightedOr (theta₁ theta₂ : String) (left right : Formula)
  deriving DecidableEq, Repr, Inhabited

namespace Formula

/-- The reserved name of the true constant. -/
def trueName : String := "TRUE"

/-- The reserved name of the false constant. -/
def falseName : String := "FALSE"

/-- The constant `TRUE`. -/
def truth : Formula := .atom trueName

/-- The constant `FALSE`. -/
def falsity : Formula := .atom falseName

/-- The name of a formula's outermost connective. -/
def kind : Formula → String
  | .atom _ => "atom"
  | .not _ => "not"
  | .and .. => "and"
  | .or .. => "or"
  | .weightedAnd .. => "WAND"
  | .weightedOr .. => "WOR"

/-- The height of the tree; an atom has height 1. -/
def height : Formula → Nat
  | .atom _ => 1
  | .not f => f.height + 1
  | .and l r | .or l r | .weightedAnd _ _ l r | .weightedOr _ _ l r => max l.height r.height + 1

end Formula

/-! ## Connectives

The two connectives that have a weighted form. -/

/-- Conjunction or disjunction. -/
inductive Connective where
  | and
  | or
  deriving DecidableEq, Repr

namespace Connective

/-- Joins two formulas. -/
def join : Connective → Formula → Formula → Formula
  | .and => .and
  | .or => .or

/-- Joins two formulas with weights. -/
def weigh : Connective → String → String → Formula → Formula → Formula
  | .and => .weightedAnd
  | .or => .weightedOr

/-- The name under which the weighted form of a connective is called. -/
def callName : Connective → String
  | .and => "WAND"
  | .or => "WOR"

/-- The connective whose weighted form has this name. -/
def ofCallName? (name : String) : Option Connective :=
  [and, or].find? (·.callName = name)

@[simp] theorem height_join (c : Connective) (l r : Formula) :
    (c.join l r).height = max l.height r.height + 1 := by cases c <;> rfl

@[simp] theorem height_weigh (c : Connective) (θ₁ θ₂ : String) (l r : Formula) :
    (c.weigh θ₁ θ₂ l r).height = max l.height r.height + 1 := by cases c <;> rfl

end Connective

namespace Formula

/-! ## Text -/

/-- The canonical text of a formula.  It parses back to the formula unless it opens too many
levels: the operand of every `!` stands in parentheses. -/
def render : Formula → String
  | .atom name => name
  | .not f => "!(" ++ f.render ++ ")"
  | .and l r => "(" ++ l.render ++ " & " ++ r.render ++ ")"
  | .or l r => "(" ++ l.render ++ " | " ++ r.render ++ ")"
  | .weightedAnd θ₁ θ₂ l r =>
    "WAND(" ++ θ₁ ++ "," ++ θ₂ ++ "," ++ l.render ++ "," ++ r.render ++ ")"
  | .weightedOr θ₁ θ₂ l r =>
    "WOR(" ++ θ₁ ++ "," ++ θ₂ ++ "," ++ l.render ++ "," ++ r.render ++ ")"

/-! ## Atoms -/

/-- The names in a formula from left to right, weights and constants included. -/
def names : Formula → List String
  | .atom name => [name]
  | .not f => f.names
  | .and l r | .or l r => l.names ++ r.names
  | .weightedAnd θ₁ θ₂ l r | .weightedOr θ₁ θ₂ l r => θ₁ :: θ₂ :: (l.names ++ r.names)

theorem names_join (c : Connective) (l r : Formula) : (c.join l r).names = l.names ++ r.names := by
  cases c <;> rfl

theorem names_weigh (c : Connective) (θ₁ θ₂ : String) (l r : Formula) :
    (c.weigh θ₁ θ₂ l r).names = θ₁ :: θ₂ :: (l.names ++ r.names) := by
  cases c <;> rfl

/-- The set of the names in a formula. -/
def atoms (f : Formula) : OrderedSet String := .ofList f.names

@[simp] theorem mem_atoms {f : Formula} {name : String} : name ∈ f.atoms ↔ name ∈ f.names :=
  OrderedSet.mem_ofList

/-! ## Crisp meaning -/

/-- The truth value of an atom: the constants stand for themselves, and the assignment `s` decides
every other name. -/
def atomHolds (s : String → Bool) (name : String) : Bool :=
  if name = trueName then true else if name = falseName then false else s name

@[simp] theorem atomHolds_trueName (s : String → Bool) : atomHolds s trueName = true := if_pos rfl

@[simp] theorem atomHolds_falseName (s : String → Bool) : atomHolds s falseName = false := by
  have hne : falseName ≠ trueName := by decide
  rw [atomHolds, if_neg hne, if_pos rfl]

theorem atomHolds_of_ne (s : String → Bool) {name : String} (htrue : name ≠ trueName)
    (hfalse : name ≠ falseName) : atomHolds s name = s name := by
  rw [atomHolds, if_neg htrue, if_neg hfalse]

/-- The truth value of a formula under the assignment `s`.  A weight is looked up as a plain name,
also when it is called `TRUE` or `FALSE`. -/
def holds (s : String → Bool) : Formula → Bool
  | .atom name => atomHolds s name
  | .not f => !f.holds s
  | .and l r => l.holds s && r.holds s
  | .or l r => l.holds s || r.holds s
  | .weightedAnd θ₁ θ₂ l r => (l.holds s || !s θ₁) && (r.holds s || !s θ₂)
  | .weightedOr θ₁ θ₂ l r => (l.holds s && s θ₁) || (r.holds s && s θ₂)

/-! ## Expansion of the weighted connectives -/

/-- Turns every weighted connective into plain ones: in `WAND` a side is implied by its weight,
in `WOR` it is guarded by it. -/
def expand : Formula → Formula
  | .atom name => .atom name
  | .not f => .not f.expand
  | .and l r => .and l.expand r.expand
  | .or l r => .or l.expand r.expand
  | .weightedAnd θ₁ θ₂ l r =>
    .and (.or l.expand (.not (.atom θ₁))) (.or r.expand (.not (.atom θ₂)))
  | .weightedOr θ₁ θ₂ l r => .or (.and l.expand (.atom θ₁)) (.and r.expand (.atom θ₂))

/-- Whether no weighted connective is left. -/
def isExpanded : Formula → Bool
  | .atom _ => true
  | .not f => f.isExpanded
  | .and l r | .or l r => l.isExpanded && r.isExpanded
  | .weightedAnd .. | .weightedOr .. => false

@[simp] theorem isExpanded_expand (f : Formula) : f.expand.isExpanded = true := by
  induction f <;> simp_all [expand, isExpanded]

end Formula

end GradedQuery
