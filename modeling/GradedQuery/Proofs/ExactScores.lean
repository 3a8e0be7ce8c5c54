import GradedQuery.Evaluate
import GradedQuery.Grade.Extended
import GradedQuery.Proofs.Outcome
import Mathlib

/-!
# Scores in exact arithmetic

Over exact grades the evaluator computes with rational numbers from the atoms on.

* **`atomScore_eq`** — whatever the raw score of an atom is, an infinity, no number or missing, the
  score that counts is a rational number between 0 and 1, the `atomGrade`.
* `Formula.score` — the score of a formula as a rational number, by the same connectives but without
  moving anything into [0, 1].
* **`evaluate_eq_score`** — on plain formulas the two are the same: the connectives never lead out
  of [0, 1], so that above the atoms there is nothing to move.
* `evaluateUnclamped` — the evaluator without the clamps above the atoms.  It computes the score
  too (`evaluateUnclamped_eq_score`), so that **the clamps only guard** (`evaluate_eq_unclamped`).
-/

namespace GradedQuery

/-! ## Operations on numbers, and moving into [0, 1] -/

namespace Extended

variable {q : ℚ}

lemma zero_eq : (Grade.zero : Extended) = finite 0 := rfl

lemma one_eq : (Grade.one : Extended) = finite 1 := rfl

lemma half_eq : (Grade.half : Extended) = finite (1 / 2) := rfl

lemma less_finite (p q : ℚ) : Grade.less (finite p) (finite q) = decide (p < q) := rfl

lemma complement_finite (q : ℚ) : Grade.complement (finite q) = finite (1 - q) := finite_sub 1 q

lemma probabilisticSum_finite (p q : ℚ) :
    Grade.probabilisticSum (finite p) (finite q) = finite (p + q - p * q) := by
  rw [Grade.probabilisticSum, finite_mul, finite_add, finite_sub]

/-- A number in [0, 1] stays. -/
lemma clamp_of_mem (h0 : 0 ≤ q) (h1 : q ≤ 1) : Grade.clamp (finite q) = finite q := by
  simp [Grade.clamp, zero_eq, one_eq, less_finite, not_lt.2 h0, not_lt.2 h1]

lemma clamp_of_nonpos (h : q ≤ 0) : Grade.clamp (finite q) = finite 0 := by
  rcases h.lt_or_eq with hlt | rfl
  · simp [Grade.clamp, zero_eq, one_eq, less_finite, hlt]
  · exact clamp_of_mem le_rfl zero_le_one

lemma clamp_of_one_le (h : 1 ≤ q) : Grade.clamp (finite q) = finite 1 := by
  have hneg : ¬ q < 0 := not_lt.2 (zero_le_one.trans h)
  rcases h.lt_or_eq with hlt | rfl
  · simp [Grade.clamp, zero_eq, one_eq, less_finite, hneg, hlt]
  · exact clamp_of_mem zero_le_one le_rfl

/-- The rational number that a value is; 0 for the others. -/
def toRat : Extended → ℚ
  | finite q => q
  | _ => 0

end Extended

open Extended

/-! ## Atoms -/

/-- The score given for an atom; 0 if there is none. -/
def rawScore (scores : Scores Extended) (atom : String) : Extended :=
  (scores.get? atom).getD (finite 0)

/-- The part of a given score that counts: the nearest number in [0, 1], and 0 for what is no
number. -/
def unitGrade : Extended → ℚ
  | finite q => max 0 (min q 1)
  | posInf => 1
  | negInf | nan => 0

/-- The same part, read by the type of an attribute. -/
def gradeFor : AttributeType → ℚ → ℚ
  | .db, q => if q < 1 / 2 then 0 else 1
  | .prox, q | .text, q => q

lemma unitGrade_mem (x : Extended) : 0 ≤ unitGrade x ∧ unitGrade x ≤ 1 := by
  cases x with
  | finite q => exact ⟨le_max_left _ _, max_le zero_le_one (min_le_right _ _)⟩
  | posInf => exact ⟨zero_le_one, le_rfl⟩
  | negInf => exact ⟨le_rfl, zero_le_one⟩
  | nan => exact ⟨le_rfl, zero_le_one⟩

lemma gradeFor_mem (t : AttributeType) {q : ℚ} (hq : 0 ≤ q ∧ q ≤ 1) :
    0 ≤ gradeFor t q ∧ gradeFor t q ≤ 1 := by
  cases t with
  | db =>
      rw [gradeFor]
      split
      · exact ⟨le_rfl, zero_le_one⟩
      · exact ⟨zero_le_one, le_rfl⟩
  | prox => exact hq
  | text => exact hq

lemma finite_unitGrade (x : Extended) :
    finite (unitGrade x) = if x = nan then finite 0 else Grade.clamp x := by
  cases x with
  | finite q =>
      show finite (max 0 (min q 1)) = Grade.clamp (finite q)
      rcases le_total q 0 with h0 | h0
      · rw [clamp_of_nonpos h0, max_eq_left (min_le_of_left_le h0)]
      · rcases le_total q 1 with h1 | h1
        · rw [clamp_of_mem h0 h1, min_eq_left h1, max_eq_right h0]
        · rw [clamp_of_one_le h1, min_eq_right h1, max_eq_right zero_le_one]
  | posInf => rfl
  | negInf => rfl
  | nan => rfl

section

variable (schema : Schema) (naming : Naming) (scores : Scores Extended) (atom : String)

/-- **The score that counts for an atom**: the given one is cut to [0, 1] and then read by the type
of the atom's attribute. -/
lemma atomScore_eq :
    atomScore schema naming scores atom =
      finite (gradeFor (Schema.typeOf schema (naming atom)) (unitGrade (rawScore scores atom))) := by
  have hvalue : finite (unitGrade (rawScore scores atom)) =
      if Grade.isNaN (rawScore scores atom) then Grade.zero
      else Grade.clamp (rawScore scores atom) := by
    have hnan : Grade.isNaN (rawScore scores atom) = decide (rawScore scores atom = nan) := rfl
    rw [finite_unitGrade, hnan]
    simp only [decide_eq_true_eq]
    rfl
  cases htype : Schema.typeOf schema (naming atom) with
  | db =>
      have hscore : atomScore schema naming scores atom =
          if Grade.less (finite (unitGrade (rawScore scores atom))) Grade.half then Grade.zero
          else Grade.one := by
        simp only [atomScore, htype, hvalue]
        rfl
      rw [hscore, gradeFor, half_eq, less_finite]
      simp only [decide_eq_true_eq]
      split
      · rfl
      · rfl
  | prox | text =>
      simp only [atomScore, htype, gradeFor, hvalue]
      rfl

/-- A database fact is true or false. -/
lemma atomScore_of_db (h : Schema.typeOf schema (naming atom) = .db) :
    atomScore schema naming scores atom = finite 0 ∨
      atomScore schema naming scores atom = finite 1 := by
  rw [atomScore_eq, h, gradeFor]
  split
  · exact Or.inl rfl
  · exact Or.inr rfl

/-- Any other score counts as it is given, as far as it is a number in [0, 1]. -/
lemma atomScore_of_ne_db (h : Schema.typeOf schema (naming atom) ≠ .db) :
    atomScore schema naming scores atom =
      if rawScore scores atom = nan then finite 0 else Grade.clamp (rawScore scores atom) := by
  rw [atomScore_eq, ← finite_unitGrade]
  cases htype : Schema.typeOf schema (naming atom) with
  | db => exact absurd htype h
  | prox => rfl
  | text => rfl

/-- The score that counts for an atom, as a rational number. -/
def atomGrade : ℚ := (atomScore schema naming scores atom).toRat

lemma atomGrade_eq :
    atomGrade schema naming scores atom =
      gradeFor (Schema.typeOf schema (naming atom)) (unitGrade (rawScore scores atom)) := by
  rw [atomGrade, atomScore_eq, toRat]

/-- **The score that counts for an atom is a rational number**, whatever its raw score is. -/
lemma atomScore_eq_finite :
    atomScore schema naming scores atom = finite (atomGrade schema naming scores atom) := by
  rw [atomGrade_eq, atomScore_eq]

lemma atomGrade_nonneg : 0 ≤ atomGrade schema naming scores atom := by
  rw [atomGrade_eq]
  exact (gradeFor_mem _ (unitGrade_mem _)).1

lemma atomGrade_le_one : atomGrade schema naming scores atom ≤ 1 := by
  rw [atomGrade_eq]
  exact (gradeFor_mem _ (unitGrade_mem _)).2

end

/-! ## Formulas -/

namespace Formula

variable {f : Formula} {p : String → ℚ}

/-- The score of a plain formula from those of its atoms; 0 for a weighted connective. -/
def score (p : String → ℚ) : Formula → ℚ
  | .atom name => if name = trueName then 1 else if name = falseName then 0 else p name
  | .not f => 1 - f.score p
  | .and l r => l.score p * r.score p
  | .or l r => l.score p + r.score p - l.score p * r.score p
  | .weightedAnd .. | .weightedOr .. => 0

/-- The probabilistic sum is the complement of the product of the complements. -/
lemma score_or (p : String → ℚ) (l r : Formula) :
    (or l r).score p = 1 - (1 - l.score p) * (1 - r.score p) := by
  rw [score]
  ring

/-- Complement, product and probabilistic sum stay in [0, 1]. -/
lemma score_mem (h0 : ∀ a, 0 ≤ p a) (h1 : ∀ a, p a ≤ 1) (f : Formula) :
    0 ≤ f.score p ∧ f.score p ≤ 1 := by
  induction f with
  | atom name =>
      rw [score]
      split
      · exact ⟨zero_le_one, le_rfl⟩
      · split
        · exact ⟨le_rfl, zero_le_one⟩
        · exact ⟨h0 name, h1 name⟩
  | not f ih =>
      rw [score]
      constructor <;> linarith [ih.1, ih.2]
  | and l r ihl ihr =>
      rw [score]
      exact ⟨mul_nonneg ihl.1 ihr.1, mul_le_one₀ ihl.2 ihr.1 ihr.2⟩
  | or l r ihl ihr =>
      have hl := sub_nonneg.2 ihl.2
      have hr := sub_nonneg.2 ihr.2
      have hprod : (1 - l.score p) * (1 - r.score p) ≤ 1 :=
        mul_le_one₀ (by linarith [ihl.1]) hr (by linarith [ihr.1])
      rw [score_or]
      constructor <;> linarith [mul_nonneg hl hr]
  | weightedAnd θ₁ θ₂ l r => exact ⟨le_rfl, zero_le_one⟩
  | weightedOr θ₁ θ₂ l r => exact ⟨le_rfl, zero_le_one⟩

end Formula

section

variable (schema : Schema) (naming : Naming) (scores : Scores Extended) {f : Formula}

lemma constantOrScore_eq_finite (name : String) :
    constantOrScore schema naming scores name =
      finite ((Formula.atom name).score (atomGrade schema naming scores)) := by
  rw [constantOrScore, Formula.score, atomScore_eq_finite]
  split
  · rfl
  · split <;> rfl

/-- There is nothing to move at any node. -/
lemma clamp_score (f : Formula) :
    Grade.clamp (finite (f.score (atomGrade schema naming scores))) =
      finite (f.score (atomGrade schema naming scores)) := by
  have hmem := Formula.score_mem (atomGrade_nonneg schema naming scores)
    (atomGrade_le_one schema naming scores) f
  exact clamp_of_mem hmem.1 hmem.2

/-- **A plain formula is evaluated to the score that its atoms' scores give it**, and that is a
number in [0, 1] at every node. -/
lemma evaluate_eq_score (hf : f.isExpanded = true) :
    evaluate schema naming scores f =
      .ok (finite (f.score (atomGrade schema naming scores))) := by
  induction f with
  | atom name =>
      rw [evaluate, constantOrScore_eq_finite, clamp_score]
      rfl
  | not f ih =>
      rw [evaluate, ih hf]
      show Except.ok (Grade.clamp (Grade.complement (finite _))) = _
      rw [complement_finite]
      exact congrArg Except.ok (clamp_score schema naming scores (.not f))
  | and l r ihl ihr =>
      rw [Formula.isExpanded, Bool.and_eq_true] at hf
      rw [evaluate, ihl hf.1, ihr hf.2]
      show Except.ok (Grade.clamp (finite _ * finite _)) = _
      rw [finite_mul]
      exact congrArg Except.ok (clamp_score schema naming scores (.and l r))
  | or l r ihl ihr =>
      rw [Formula.isExpanded, Bool.and_eq_true] at hf
      rw [evaluate, ihl hf.1, ihr hf.2]
      show Except.ok (Grade.clamp (Grade.probabilisticSum (finite _) (finite _))) = _
      rw [probabilisticSum_finite]
      exact congrArg Except.ok (clamp_score schema naming scores (.or l r))
  | weightedAnd θ₁ θ₂ l r => exact absurd hf Bool.false_ne_true
  | weightedOr θ₁ θ₂ l r => exact absurd hf Bool.false_ne_true

end

/-! ## Evaluation without clamps above the atoms -/

/-- The score of a plain formula when only the scores of the atoms are moved into [0, 1] and the
values of the connectives stay as they come out. -/
def evaluateUnclamped {α : Type} [Grade α] (schema : Schema) (naming : Naming) (scores : Scores α) :
    Formula → Except QueryError α
  | .atom name => return constantOrScore schema naming scores name
  | .not f => do
    let x ← evaluateUnclamped schema naming scores f
    return Grade.complement x
  | .and l r => do
    let x ← evaluateUnclamped schema naming scores l
    let y ← evaluateUnclamped schema naming scores r
    return x * y
  | .or l r => do
    let x ← evaluateUnclamped schema naming scores l
    let y ← evaluateUnclamped schema naming scores r
    return Grade.probabilisticSum x y
  | .weightedAnd .. => .error (.weighted .evaluator .and)
  | .weightedOr .. => .error (.weighted .evaluator .or)

section

variable (schema : Schema) (naming : Naming) (scores : Scores Extended) {f : Formula}

/-- The operations lead from numbers to numbers, whether these are in [0, 1] or not. -/
lemma evaluateUnclamped_eq_score (hf : f.isExpanded = true) :
    evaluateUnclamped schema naming scores f =
      .ok (finite (f.score (atomGrade schema naming scores))) := by
  induction f with
  | atom name =>
      rw [evaluateUnclamped, constantOrScore_eq_finite]
      rfl
  | not f ih =>
      rw [evaluateUnclamped, ih hf]
      exact congrArg Except.ok (complement_finite _)
  | and l r ihl ihr =>
      rw [Formula.isExpanded, Bool.and_eq_true] at hf
      rw [evaluateUnclamped, ihl hf.1, ihr hf.2]
      exact congrArg Except.ok (finite_mul _ _)
  | or l r ihl ihr =>
      rw [Formula.isExpanded, Bool.and_eq_true] at hf
      rw [evaluateUnclamped, ihl hf.1, ihr hf.2]
      exact congrArg Except.ok (probabilisticSum_finite _ _)
  | weightedAnd θ₁ θ₂ l r => exact absurd hf Bool.false_ne_true
  | weightedOr θ₁ θ₂ l r => exact absurd hf Bool.false_ne_true

/-- **The score of a plain formula is a number in [0, 1], and the clamps above the atoms do not
contribute to it**, whatever scores an object has: numbers, infinities, what is no number, or none
at all. -/
theorem evaluate_eq_unclamped (hf : f.isExpanded = true) :
    ∃ q : ℚ, evaluate schema naming scores f = .ok (finite q) ∧ 0 ≤ q ∧ q ≤ 1 ∧
      evaluateUnclamped schema naming scores f = .ok (finite q) := by
  have hmem := f.score_mem (atomGrade_nonneg schema naming scores)
    (atomGrade_le_one schema naming scores)
  exact ⟨_, evaluate_eq_score schema naming scores hf, hmem.1, hmem.2,
    evaluateUnclamped_eq_score schema naming scores hf⟩

end

/-- Scores of every kind: `d` is a fact below the threshold, `i` is infinite, `n` no number, `b`
below 0 and `m` missing. -/
theorem evaluate_eq_unclamped_special :
    let naming : Naming := fun a => if a = "d" then "d" else "q"
    let schema : Schema := .ofList [("d", .db)]
    let scores : Scores Extended := .ofList
      [("d", finite (1 / 4)), ("i", posInf), ("n", nan), ("b", finite (-3)), ("p", finite (1 / 3))]
    let f : Formula := .or (.or (.atom "d") (.or (.atom "n") (.atom "b")))
      (.and (.atom "p") (.and (.atom "i") (.not (.atom "m"))))
    f.isExpanded = true ∧ evaluate schema naming scores f = .ok (finite (1 / 3)) ∧
      evaluateUnclamped schema naming scores f = .ok (finite (1 / 3)) := by
  intro naming schema scores f
  have hscore : evaluate schema naming scores f = .ok (finite (1 / 3)) := by
    subst naming schema scores f
    cbv
  obtain ⟨q, hq, -, -, hunclamped⟩ := evaluate_eq_unclamped schema naming scores (f := f) rfl
  have hvalue : finite q = finite (1 / 3) := Except.ok.inj (hq.symm.trans hscore)
  exact ⟨rfl, hscore, hvalue ▸ hunclamped⟩

end GradedQuery
