import GradedQuery.Proofs.ExactScores
import GradedQuery.Proofs.LatticeLaws

/-!
# Scores and the way a query is written

The normal form of a query does not depend on how the query is written, up to all laws of lattices.
Its score is more particular: joining a formula with itself changes it, and so does multiplying out.
**It is the laws that mention no part twice on a side that leave the score alone**
(`evaluate_eq_of_congruence`): commutativity, associativity, double negation, De Morgan, and the
constants as units and annihilators.  Each of them is an identity of polynomials in the scores of
the parts (`Formula.LinearLaw.score_eq`), the evaluator computes these polynomials as its clamps
have nothing to do (`evaluate_eq_score`), and a congruence carries them anywhere.

Pushing the negations down to the atoms is rewriting by these laws
(`Formula.congruence_pushNegations`).  It is what the conversion to normal forms does on its way
(`Dnf.ofSigned_pushNegations`), so that this part of it changes no score.
-/

namespace GradedQuery

open Extended

/-! ## Pushing negations down -/

/-- A connective, or its dual under a negation. -/
def Connective.signed (negated : Bool) (c : Connective) : Connective :=
  if negated then c.dual else c

namespace Formula

variable {f : Formula}

/-- A formula or its negation. -/
def signed (negated : Bool) (f : Formula) : Formula := if negated then .not f else f

/-- The formula or its negation, with the negations pushed down to the atoms. -/
def pushNegations (negated : Bool) : Formula → Formula
  | .atom name => signed negated (.atom name)
  | .not f => f.pushNegations (!negated)
  | .and l r =>
    (Connective.and.signed negated).join (l.pushNegations negated) (r.pushNegations negated)
  | .or l r =>
    (Connective.or.signed negated).join (l.pushNegations negated) (r.pushNegations negated)
  | .weightedAnd θ₁ θ₂ l r => signed negated (.weightedAnd θ₁ θ₂ l r)
  | .weightedOr θ₁ θ₂ l r => signed negated (.weightedOr θ₁ θ₂ l r)

/-- Whether a formula is plain and only atoms are negated in it. -/
def isNegationNormal : Formula → Bool
  | .atom _ | .not (.atom _) => true
  | .and l r | .or l r => l.isNegationNormal && r.isNegationNormal
  | .not _ | .weightedAnd .. | .weightedOr .. => false

lemma isNegationNormal_join (c : Connective) (l r : Formula) :
    (c.join l r).isNegationNormal = (l.isNegationNormal && r.isNegationNormal) := by
  cases c <;> rfl

lemma isExpanded_of_isNegationNormal (h : f.isNegationNormal = true) : f.isExpanded = true := by
  induction f with
  | atom name => rfl
  | not f ih =>
      cases f with
      | atom name => rfl
      | _ => cases h
  | and l r ihl ihr =>
      rw [isNegationNormal, Bool.and_eq_true] at h
      rw [isExpanded, ihl h.1, ihr h.2, Bool.and_self]
  | or l r ihl ihr =>
      rw [isNegationNormal, Bool.and_eq_true] at h
      rw [isExpanded, ihl h.1, ihr h.2, Bool.and_self]
  | weightedAnd θ₁ θ₂ l r => cases h
  | weightedOr θ₁ θ₂ l r => cases h

/-- In a plain formula all negations reach the atoms. -/
lemma isNegationNormal_pushNegations (hf : f.isExpanded = true) (negated : Bool) :
    (f.pushNegations negated).isNegationNormal = true := by
  induction f generalizing negated with
  | atom name => cases negated <;> rfl
  | not f ih => exact ih hf (!negated)
  | and l r ihl ihr =>
      rw [isExpanded, Bool.and_eq_true] at hf
      rw [pushNegations, isNegationNormal_join, ihl hf.1, ihr hf.2, Bool.and_self]
  | or l r ihl ihr =>
      rw [isExpanded, Bool.and_eq_true] at hf
      rw [pushNegations, isNegationNormal_join, ihl hf.1, ihr hf.2, Bool.and_self]
  | weightedAnd θ₁ θ₂ l r => exact absurd hf Bool.false_ne_true
  | weightedOr θ₁ θ₂ l r => exact absurd hf Bool.false_ne_true

/-- A negation in front of two parts goes to both of them. -/
lemma congruence_signed_join (c : Connective) (negated : Bool) (l r : Formula) :
    Congruence LinearLaw (signed negated (c.join l r))
      ((c.signed negated).join (signed negated l) (signed negated r)) := by
  cases negated with
  | false => exact .refl _
  | true => exact .law (.deMorgan c l r)

/-- **Pushing negations down is rewriting by linear laws.** -/
lemma congruence_pushNegations (negated : Bool) (f : Formula) :
    Congruence LinearLaw (signed negated f) (f.pushNegations negated) := by
  induction f generalizing negated with
  | atom name => exact .refl _
  | not f ih =>
      cases negated with
      | false => exact ih true
      | true => exact .trans (.law (.doubleNegation f)) (ih false)
  | and l r ihl ihr =>
      exact .trans (congruence_signed_join .and negated l r)
        (.join _ (ihl negated) (ihr negated))
  | or l r ihl ihr =>
      exact .trans (congruence_signed_join .or negated l r)
        (.join _ (ihl negated) (ihr negated))
  | weightedAnd θ₁ θ₂ l r => exact .refl _
  | weightedOr θ₁ θ₂ l r => exact .refl _

end Formula

/-- **The conversion to normal forms pushes negations down**: that they are there already makes no
difference. -/
lemma Dnf.ofSigned_pushNegations (negated : Bool) (f : Formula) :
    Dnf.ofSigned false (f.pushNegations negated) = Dnf.ofSigned negated f := by
  induction f generalizing negated with
  | atom name => cases negated <;> rfl
  | not f ih => exact ih (!negated)
  | and l r ihl ihr =>
      cases negated with
      | false =>
          show Dnf.ofSigned false (.and (l.pushNegations false) (r.pushNegations false)) = _
          rw [Dnf.ofSigned, Dnf.ofSigned, ihl, ihr]
      | true =>
          show Dnf.ofSigned false (.or (l.pushNegations true) (r.pushNegations true)) = _
          rw [Dnf.ofSigned, Dnf.ofSigned, ihl, ihr]
          rfl
  | or l r ihl ihr =>
      cases negated with
      | false =>
          show Dnf.ofSigned false (.or (l.pushNegations false) (r.pushNegations false)) = _
          rw [Dnf.ofSigned, Dnf.ofSigned, ihl, ihr]
      | true =>
          show Dnf.ofSigned false (.and (l.pushNegations true) (r.pushNegations true)) = _
          rw [Dnf.ofSigned, Dnf.ofSigned, ihl, ihr]
          rfl
  | weightedAnd θ₁ θ₂ l r => cases negated <;> rfl
  | weightedOr θ₁ θ₂ l r => cases negated <;> rfl

/-! ## The laws on scores -/

namespace Connective

variable (c : Connective) (x y z : ℚ)

/-- The score that a connective makes of two scores. -/
def blend : Connective → ℚ → ℚ → ℚ
  | .and, x, y => x * y
  | .or, x, y => x + y - x * y

/-- The score of the constant that adds nothing to the other side. -/
def neutral : Connective → ℚ
  | .and => 1
  | .or => 0

lemma blend_comm : c.blend x y = c.blend y x := by
  cases c with
  | and => exact mul_comm x y
  | or => simp only [blend]; ring

lemma blend_assoc : c.blend (c.blend x y) z = c.blend x (c.blend y z) := by
  cases c with
  | and => exact mul_assoc x y z
  | or => simp only [blend]; ring

lemma one_sub_blend : 1 - c.blend x y = c.dual.blend (1 - x) (1 - y) := by
  cases c with
  | and => simp only [blend, dual]; ring
  | or => simp only [blend, dual]; ring

lemma blend_neutral : c.blend x c.neutral = x := by
  cases c with
  | and => exact mul_one x
  | or => simp only [blend, neutral]; ring

lemma blend_neutral_dual : c.blend x c.dual.neutral = c.dual.neutral := by
  cases c with
  | and => exact mul_zero x
  | or => simp only [blend, dual, neutral]; ring

end Connective

namespace Formula

variable (p : String → ℚ) {f g : Formula}

lemma score_not (f : Formula) : (not f).score p = 1 - f.score p := rfl

lemma score_join (c : Connective) (l r : Formula) :
    (c.join l r).score p = c.blend (l.score p) (r.score p) := by
  cases c <;> rfl

lemma score_unit (c : Connective) : c.unit.score p = c.neutral := by
  cases c with
  | and => exact if_pos rfl
  | or => exact (if_neg (by decide)).trans (if_pos rfl)

/-- Both sides of a linear law are the same polynomial in the scores of the parts. -/
lemma LinearLaw.score_eq (h : LinearLaw f g) : f.score p = g.score p := by
  cases h with
  | comm c f g => rw [score_join, score_join, c.blend_comm]
  | assoc c f g h => simp only [score_join, c.blend_assoc]
  | doubleNegation f => rw [score_not, score_not, sub_sub_cancel]
  | deMorgan c f g => simp only [score_not, score_join, c.one_sub_blend]
  | unit c f => rw [score_join, score_unit, c.blend_neutral]
  | annihilator c f => rw [score_join, score_unit, c.blend_neutral_dual]

/-- **Rewriting by linear laws changes no score.** -/
lemma Congruence.score_eq (h : Congruence LinearLaw f g) : f.score p = g.score p := by
  induction h with
  | law h => exact h.score_eq p
  | refl f => rfl
  | symm _ ih => exact ih.symm
  | trans _ _ ihfg ihgh => exact ihfg.trans ihgh
  | not _ ih => rw [score_not, score_not, ih]
  | join c _ _ ihl ihr => rw [score_join, score_join, ihl, ihr]

end Formula

/-- **Queries that linear laws turn into each other give every object the same score.**  In
particular the negations may be pushed down to the atoms, as the conversion to normal forms does
it. -/
theorem evaluate_eq_of_congruence (schema : Schema) (naming : Naming) (scores : Scores Extended)
    {f g : Formula} (hf : f.isExpanded = true) (hg : g.isExpanded = true)
    (h : Formula.Congruence Formula.LinearLaw f g) :
    (∃ x, evaluate schema naming scores f = .ok x ∧ evaluate schema naming scores g = .ok x) ∧
      (f.pushNegations false).isNegationNormal = true ∧
      Dnf.ofFormula (f.pushNegations false) = Dnf.ofFormula f ∧
      evaluate schema naming scores (f.pushNegations false) = evaluate schema naming scores f := by
  have hnormal := Formula.isNegationNormal_pushNegations hf false
  have hpush : Formula.Congruence Formula.LinearLaw f (f.pushNegations false) :=
    Formula.congruence_pushNegations false f
  refine ⟨⟨_, evaluate_eq_score schema naming scores hf, ?_⟩, hnormal, ?_, ?_⟩
  · rw [evaluate_eq_score schema naming scores hg, h.score_eq]
  · rw [Dnf.ofFormula, Dnf.ofFormulaIn, Dnf.ofSigned_pushNegations]
    rfl
  · rw [evaluate_eq_score schema naming scores (Formula.isExpanded_of_isNegationNormal hnormal),
      evaluate_eq_score schema naming scores hf, hpush.score_eq]

/-- A negated conjunction with a negation inside, and its parts the other way round. -/
theorem evaluate_eq_of_congruence_implication :
    let scores : Scores Extended := .ofList [("A", finite (1 / 2)), ("B", finite (1 / 3))]
    let f : Formula := .or (.not (.and (.atom "A") (.not (.atom "B")))) .falsity
    let g : Formula := .or (.atom "B") (.not (.atom "A"))
    f.isExpanded = true ∧ g.isExpanded = true ∧ Formula.Congruence Formula.LinearLaw f g ∧
      f.pushNegations false = .or (.or (.not (.atom "A")) (.atom "B")) .falsity ∧
      evaluate (.ofList []) defaultNaming scores f = .ok (finite (2 / 3)) ∧
      evaluate (.ofList []) defaultNaming scores g = .ok (finite (2 / 3)) ∧
      evaluate (.ofList []) defaultNaming scores (f.pushNegations false) = .ok (finite (2 / 3)) := by
  intro scores f g
  have hpushed : Formula.Congruence Formula.LinearLaw (.not (.and (.atom "A") (.not (.atom "B"))))
      (.or (.not (.atom "A")) (.atom "B")) :=
    .trans (.law (.deMorgan .and _ _)) (.join .or (.refl _) (.law (.doubleNegation _)))
  have h : Formula.Congruence Formula.LinearLaw f g :=
    .trans (.law (.unit .or _)) (.trans hpushed (.law (.comm .or _ _)))
  have hscore : evaluate (.ofList []) defaultNaming scores f = .ok (finite (2 / 3)) := by
    subst scores f
    cbv
  obtain ⟨⟨x, hx, hgx⟩, -, -, hpush⟩ := evaluate_eq_of_congruence (.ofList []) defaultNaming
    scores (f := f) (g := g) rfl rfl h
  obtain rfl : x = finite (2 / 3) := Except.ok.inj (hx.symm.trans hscore)
  exact ⟨rfl, rfl, h, rfl, hscore, hgx, hpush.trans hscore⟩

end GradedQuery
