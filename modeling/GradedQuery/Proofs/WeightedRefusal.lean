import GradedQuery.Evaluate
import GradedQuery.Proofs.Compilation
import GradedQuery.Proofs.RelevantAtoms

/-!
# Refusals of weighted connectives

Conversion to a normal form, normalization and evaluation accept plain formulas only.  Each of them
recurses over the formula on its own, and conversion swaps conjunction and disjunction under a
negation on the way.  Still they agree on what they refuse and why: **all of them refuse a formula
for its first weighted node** (`refuses_first_weighted`), in the order of `Formula.nodes`.

What carries this is the order of the two operands.  Every stage works on the left one first and
gives up as soon as that fails, whatever the connective has become and whatever the right one would
yield (`refusedFor_pair`).
-/

namespace GradedQuery

namespace Formula

variable {f : Formula}

/-! ## The first weighted node -/

/-- The nodes of a formula from left to right, each of them before its parts. -/
def nodes : Formula → List Formula
  | .atom name => [.atom name]
  | .not f => .not f :: f.nodes
  | .and l r => .and l r :: (l.nodes ++ r.nodes)
  | .or l r => .or l r :: (l.nodes ++ r.nodes)
  | .weightedAnd θ₁ θ₂ l r => .weightedAnd θ₁ θ₂ l r :: (l.nodes ++ r.nodes)
  | .weightedOr θ₁ θ₂ l r => .weightedOr θ₁ θ₂ l r :: (l.nodes ++ r.nodes)

/-- Whether the node at the top is a weighted connective. -/
def isWeighted : Formula → Bool
  | .weightedAnd .. | .weightedOr .. => true
  | _ => false

/-- The first weighted node. -/
def firstWeighted? (f : Formula) : Option Formula := f.nodes.find? isWeighted

@[simp] lemma firstWeighted?_atom (name : String) : (atom name).firstWeighted? = none := rfl

@[simp] lemma firstWeighted?_not (f : Formula) : f.not.firstWeighted? = f.firstWeighted? := rfl

@[simp] lemma firstWeighted?_and (l r : Formula) :
    (l.and r).firstWeighted? = l.firstWeighted?.or r.firstWeighted? := by
  simp [firstWeighted?, nodes, isWeighted]

@[simp] lemma firstWeighted?_or (l r : Formula) :
    (l.or r).firstWeighted? = l.firstWeighted?.or r.firstWeighted? := by
  simp [firstWeighted?, nodes, isWeighted]

/-- A formula is plain exactly if it has no weighted node. -/
lemma isExpanded_eq_isNone (f : Formula) : f.isExpanded = f.firstWeighted?.isNone := by
  induction f with
  | atom name => rfl
  | not f ih => exact ih
  | and l r ihl ihr => simp [isExpanded, ihl, ihr]
  | or l r ihl ihr => simp [isExpanded, ihl, ihr]
  | weightedAnd θ₁ θ₂ l r => rfl
  | weightedOr θ₁ θ₂ l r => rfl

lemma isExpanded_of_firstWeighted? (h : f.firstWeighted? = none) : f.isExpanded = true := by
  rw [isExpanded_eq_isNone, h]
  rfl

end Formula

/-! ## Refusals on the way -/

section

variable {ε α β : Type} {toError : Connective → ε} {f l r g : Formula} {x y : Except ε α}

/-- Whether an outcome is the refusal of a node, of which it says the kind. -/
def RefusedFor (toError : Connective → ε) (g : Formula) (x : Except ε α) : Prop :=
  ∃ c : Connective, c.callName = g.kind ∧ x = .error (toError c)

lemma refusedFor_bind (h : RefusedFor toError g x) (next : α → Except ε β) :
    RefusedFor toError g (x >>= next) := by
  obtain ⟨c, hc, rfl⟩ := h
  exact ⟨c, hc, rfl⟩

/-- **Of two operands the left one decides, if it is refused.** -/
lemma refusedFor_pair (hplain : l.isExpanded = true → ∃ a, x = .ok a)
    (hl : l.firstWeighted? = some g → RefusedFor toError g x)
    (hr : r.firstWeighted? = some g → RefusedFor toError g y)
    (h : l.firstWeighted?.or r.firstWeighted? = some g) (combine : α → α → β) :
    RefusedFor toError g (do return combine (← x) (← y)) := by
  cases hfirst : l.firstWeighted? with
  | some g' =>
      rw [hfirst] at h hl
      exact refusedFor_bind (hl h) _
  | none =>
      obtain ⟨a, rfl⟩ := hplain (Formula.isExpanded_of_firstWeighted? hfirst)
      rw [hfirst] at h
      exact refusedFor_bind (hr h) _

/-- Under a negation conversion meets the same operands in the same order. -/
lemma refusedFor_ofSigned (negated : Bool) (h : f.firstWeighted? = some g) :
    RefusedFor id g (Dnf.ofSigned negated f) := by
  induction f generalizing negated with
  | atom name => cases h
  | not f ih => exact ih (!negated) h
  | and l r ihl ihr =>
      exact refusedFor_pair (fun hl => Dnf.exists_ofSigned hl negated) (ihl negated)
        (ihr negated) (Formula.firstWeighted?_and l r ▸ h) (Dnf.meet negated)
  | or l r ihl ihr =>
      exact refusedFor_pair (fun hl => Dnf.exists_ofSigned hl negated) (ihl negated)
        (ihr negated) (Formula.firstWeighted?_or l r ▸ h) (Dnf.join negated)
  | weightedAnd θ₁ θ₂ l r =>
      cases h
      exact ⟨.and, rfl, rfl⟩
  | weightedOr θ₁ θ₂ l r =>
      cases h
      exact ⟨.or, rfl, rfl⟩

lemma refusedFor_ofFormulaIn (stage : Stage) (h : f.firstWeighted? = some g) :
    RefusedFor (.weighted stage) g (Dnf.ofFormulaIn stage f) := by
  obtain ⟨c, hc, hx⟩ := refusedFor_ofSigned false h
  exact ⟨c, hc, by rw [Dnf.ofFormulaIn, hx]; rfl⟩

end

section

variable {α : Type} [Grade α] {f g : Formula}

lemma refusedFor_evaluate (schema : Schema) (naming : Naming) (scores : Scores α)
    (h : f.firstWeighted? = some g) :
    RefusedFor (.weighted .evaluator) g (evaluate schema naming scores f) := by
  induction f with
  | atom name => cases h
  | not f ih => exact refusedFor_bind (ih h) _
  | and l r ihl ihr =>
      exact refusedFor_pair (exists_evaluate schema naming scores) ihl ihr
        (Formula.firstWeighted?_and l r ▸ h) fun x y => Grade.clamp (x * y)
  | or l r ihl ihr =>
      exact refusedFor_pair (exists_evaluate schema naming scores) ihl ihr
        (Formula.firstWeighted?_or l r ▸ h) fun x y => Grade.clamp (Grade.probabilisticSum x y)
  | weightedAnd θ₁ θ₂ l r =>
      cases h
      exact ⟨.and, rfl, rfl⟩
  | weightedOr θ₁ θ₂ l r =>
      cases h
      exact ⟨.or, rfl, rfl⟩

/-- The normalizer hands on the refusal of the conversion, in its own name. -/
lemma refusedFor_normalize (opts : SplitOptions) (naming : Naming)
    (h : f.firstWeighted? = some g) :
    RefusedFor (.weighted .normalizer) g (f.normalize opts naming).outcome := by
  obtain ⟨c, hc, hx⟩ := refusedFor_ofFormulaIn .normalizer h
  refine ⟨c, hc, ?_⟩
  rw [Formula.normalize, Traced.bind_error (x := .ofExcept (Dnf.ofFormulaIn .normalizer f)) hx]

/-! ## Refusals of the stages -/

/-- What the stage of this name does with a formula: a plain one has a result, and any other is
refused with an error that has the name of the stage and the kind of the first weighted node. -/
def RefusesWeighted {β : Type} (name : String) (f : Formula) (x : Except QueryError β) : Prop :=
  (f.isExpanded = true → ∃ b, x = .ok b) ∧
    (f.isExpanded = false → ∃ g stage c, f.nodes.find? Formula.isWeighted = some g ∧
      x = .error (.weighted stage c) ∧ stage.name = name ∧ c.callName = g.kind)

lemma refusesWeighted_of_refusedFor {β : Type} {x : Except QueryError β} (stage : Stage)
    (hplain : f.isExpanded = true → ∃ b, x = .ok b)
    (hrefused : ∀ g, f.firstWeighted? = some g → RefusedFor (.weighted stage) g x) :
    RefusesWeighted stage.name f x := by
  refine ⟨hplain, fun hf => ?_⟩
  cases hg : f.firstWeighted? with
  | none => simp [Formula.isExpanded_of_firstWeighted? hg] at hf
  | some g =>
      obtain ⟨c, hc, hx⟩ := hrefused g hg
      exact ⟨g, stage, c, hg, hx, rfl, hc⟩

/-- **Conversion, normalization and evaluation refuse the same formulas for the same node.**  Each
of them has a result exactly for the plain formulas, and refuses every other one, in its own name,
for the kind of the first weighted node. -/
theorem refuses_first_weighted (f : Formula) (opts : SplitOptions) (naming : Naming)
    (schema : Schema) (scores : Scores α) :
    RefusesWeighted "DNF conversion" f (Dnf.ofFormula f) ∧
      RefusesWeighted "normalizer" f (f.normalize opts naming).outcome ∧
      RefusesWeighted "evaluator" f (evaluate schema naming scores f) := by
  refine ⟨refusesWeighted_of_refusedFor .dnfConversion (fun hf => ?_) fun g => ?_,
    refusesWeighted_of_refusedFor .normalizer (fun hf => ?_) fun g => ?_,
    refusesWeighted_of_refusedFor .evaluator (fun hf => ?_) fun g => ?_⟩
  · obtain ⟨d, hd, -⟩ := Dnf.exists_ofFormula hf
    exact ⟨d, hd⟩
  · exact refusedFor_ofFormulaIn .dnfConversion
  · exact Formula.exists_normalize opts naming hf
  · exact refusedFor_normalize opts naming
  · exact exists_evaluate schema naming scores hf
  · exact refusedFor_evaluate schema naming scores

/-- The false operand in front decides nothing, and of the two weighted nodes the outer one comes
first. -/
example :
    let f : Formula := .not (.and (.atom "FALSE")
      (.weightedOr "t" "u" (.weightedAnd "t" "u" (.atom "a") (.atom "b")) (.atom "b")))
    Dnf.ofFormula f = .error (.weighted .dnfConversion .or) := rfl

end

end GradedQuery
