import GradedQuery.Proofs.ExactScores
import GradedQuery.Proofs.WeightExpansion

/-!
# Weights as switches

A weighted connective asks its weights which of its sides count.  `Formula.expand` puts a plain
formula in its place, which knows no switches: a side that does not count is joined with a constant
there, by a product or a probabilistic sum.

* `switchedScore` — the score that a formula with weights is meant to have: `WAND` is the product
  and `WOR` the probabilistic sum of the sides whose weight counts with 1.
* **`switchedScore_eq_score`** — where all weights count with 0 or 1, this is the score of the
  expanded formula.  A side with the weight 0 disappears from it, whatever its own score is, since
  it turns into 1 in a product and into 0 in a probabilistic sum.
-/

namespace GradedQuery

open Extended

/-! ## Sides that count -/

/-- The values of the sides whose weight counts with 1. -/
def countingSides (weight : String → Extended) (sides : List (String × Extended)) :
    List Extended :=
  (sides.filter fun side => weight side.1 = finite 1).map Prod.snd

/-- The product of some values; 1 if there are none. -/
def productOf (values : List Extended) : Extended := values.foldr (· * ·) (finite 1)

/-- The probabilistic sum of some values; 0 if there are none. -/
def probabilisticSumOf (values : List Extended) : Extended :=
  values.foldr Grade.probabilisticSum (finite 0)

section

variable {weight : String → Extended} {sides : List (String × Extended)} {θ : String} {x : Extended}
  {w q rest : ℚ}

lemma countingSides_cons_of_one (h : weight θ = finite 1) :
    countingSides weight ((θ, x) :: sides) = x :: countingSides weight sides := by
  simp [countingSides, h]

lemma countingSides_cons_of_zero (h : weight θ = finite 0) :
    countingSides weight ((θ, x) :: sides) = countingSides weight sides := by
  simp [countingSides, h]

/-- In a product a side is implied by its weight. -/
lemma productOf_countingSides_cons (h : weight θ = finite w) (hw : w = 0 ∨ w = 1)
    (hrest : productOf (countingSides weight sides) = finite rest) :
    productOf (countingSides weight ((θ, finite q) :: sides)) =
      finite ((q + (1 - w) - q * (1 - w)) * rest) := by
  rcases hw with rfl | rfl
  · have hgone : (q + (1 - 0) - q * (1 - 0)) * rest = rest := by ring
    rw [countingSides_cons_of_zero h, hrest, hgone]
  · have hstays : (q + (1 - 1) - q * (1 - 1)) * rest = q * rest := by ring
    rw [countingSides_cons_of_one h, productOf, List.foldr_cons, ← productOf, hrest, finite_mul,
      hstays]

/-- In a probabilistic sum a side is guarded by its weight. -/
lemma probabilisticSumOf_countingSides_cons (h : weight θ = finite w) (hw : w = 0 ∨ w = 1)
    (hrest : probabilisticSumOf (countingSides weight sides) = finite rest) :
    probabilisticSumOf (countingSides weight ((θ, finite q) :: sides)) =
      finite (q * w + rest - q * w * rest) := by
  rcases hw with rfl | rfl
  · have hgone : q * 0 + rest - q * 0 * rest = rest := by ring
    rw [countingSides_cons_of_zero h, hrest, hgone]
  · have hstays : q * 1 + rest - q * 1 * rest = q + rest - q * rest := by ring
    rw [countingSides_cons_of_one h, probabilisticSumOf, List.foldr_cons, ← probabilisticSumOf,
      hrest, probabilisticSum_finite, hstays]

end

/-! ## Scores with switches -/

/-- The score of a formula whose weights decide which sides count.  The plain connectives are scored
as in `evaluate`. -/
def switchedScore (schema : Schema) (naming : Naming) (scores : Scores Extended) :
    Formula → Extended
  | .atom name => Grade.clamp (constantOrScore schema naming scores name)
  | .not f => Grade.clamp (Grade.complement (switchedScore schema naming scores f))
  | .and l r =>
    Grade.clamp (switchedScore schema naming scores l * switchedScore schema naming scores r)
  | .or l r =>
    Grade.clamp (Grade.probabilisticSum (switchedScore schema naming scores l)
      (switchedScore schema naming scores r))
  | .weightedAnd θ₁ θ₂ l r =>
    productOf (countingSides (constantOrScore schema naming scores)
      [(θ₁, switchedScore schema naming scores l), (θ₂, switchedScore schema naming scores r)])
  | .weightedOr θ₁ θ₂ l r =>
    probabilisticSumOf (countingSides (constantOrScore schema naming scores)
      [(θ₁, switchedScore schema naming scores l), (θ₂, switchedScore schema naming scores r)])

section

variable (schema : Schema) (naming : Naming) (scores : Scores Extended) {f : Formula}

/-- **With weights that are 0 or 1 the score with switches is that of the expanded formula.** -/
lemma switchedScore_eq_score
    (hcrisp : ∀ θ ∈ f.weights, (Formula.atom θ).score (atomGrade schema naming scores) = 0 ∨
      (Formula.atom θ).score (atomGrade schema naming scores) = 1) :
    switchedScore schema naming scores f =
      finite (f.expand.score (atomGrade schema naming scores)) := by
  have hweight := constantOrScore_eq_finite schema naming scores
  induction f with
  | atom name =>
      rw [switchedScore, hweight, clamp_score]
      rfl
  | not f ih =>
      rw [switchedScore, ih hcrisp, complement_finite]
      exact clamp_score schema naming scores (.not f.expand)
  | and l r ihl ihr =>
      rw [Formula.weights, List.forall_mem_append] at hcrisp
      rw [switchedScore, ihl hcrisp.1, ihr hcrisp.2, finite_mul]
      exact clamp_score schema naming scores (.and l.expand r.expand)
  | or l r ihl ihr =>
      rw [Formula.weights, List.forall_mem_append] at hcrisp
      rw [switchedScore, ihl hcrisp.1, ihr hcrisp.2, probabilisticSum_finite]
      exact clamp_score schema naming scores (.or l.expand r.expand)
  | weightedAnd θ₁ θ₂ l r ihl ihr =>
      rw [Formula.weights, List.forall_mem_cons, List.forall_mem_cons, List.forall_mem_append]
        at hcrisp
      obtain ⟨h₁, h₂, hl, hr⟩ := hcrisp
      rw [switchedScore, ihl hl, ihr hr, productOf_countingSides_cons (hweight θ₁) h₁
        (productOf_countingSides_cons (hweight θ₂) h₂ rfl), mul_one]
      rfl
  | weightedOr θ₁ θ₂ l r ihl ihr =>
      rw [Formula.weights, List.forall_mem_cons, List.forall_mem_cons, List.forall_mem_append]
        at hcrisp
      obtain ⟨h₁, h₂, hl, hr⟩ := hcrisp
      rw [switchedScore, ihl hl, ihr hr, probabilisticSumOf_countingSides_cons (hweight θ₁) h₁
        (probabilisticSumOf_countingSides_cons (hweight θ₂) h₂ rfl), mul_zero, add_zero, sub_zero]
      rfl

/-- **Weights that count with 0 or 1 act as switches**: expanding them and evaluating leaves in
every weighted connective just the sides that are switched on, at any depth. -/
theorem evaluate_expand_eq_switchedScore
    (hcrisp : ∀ θ ∈ f.weights, evaluate schema naming scores (.atom θ) = .ok (finite 0) ∨
      evaluate schema naming scores (.atom θ) = .ok (finite 1)) :
    evaluate schema naming scores f.expand = .ok (switchedScore schema naming scores f) := by
  have hscore : ∀ θ q, evaluate schema naming scores (.atom θ) = .ok (finite q) →
      (Formula.atom θ).score (atomGrade schema naming scores) = q := by
    intro θ q h
    rw [evaluate_eq_score schema naming scores rfl] at h
    exact finite.inj (Except.ok.inj h)
  have hbits : ∀ θ ∈ f.weights, (Formula.atom θ).score (atomGrade schema naming scores) = 0 ∨
      (Formula.atom θ).score (atomGrade schema naming scores) = 1 :=
    fun θ hθ => (hcrisp θ hθ).imp (hscore θ 0) (hscore θ 1)
  rw [evaluate_eq_score schema naming scores f.isExpanded_expand,
    switchedScore_eq_score schema naming scores hbits]

end

/-- A fact that is on, a missing weight that is off, a constant for a weight, and a weight that is
an atom besides; the side `q` disappears. -/
theorem evaluate_expand_eq_switchedScore_nested :
    let naming : Naming := fun a => if a = "d" then "d" else "q"
    let schema : Schema := .ofList [("d", .db)]
    let scores : Scores Extended :=
      .ofList [("d", finite (3 / 4)), ("p", finite (1 / 2)), ("q", finite (1 / 5))]
    let f : Formula := .weightedAnd "d" "m"
      (.weightedOr "TRUE" "d" (.atom "p") (.and (.atom "p") (.atom "d"))) (.atom "q")
    (∀ θ ∈ f.weights, evaluate schema naming scores (.atom θ) = .ok (finite 0) ∨
      evaluate schema naming scores (.atom θ) = .ok (finite 1)) ∧
      evaluate schema naming scores f.expand = .ok (finite (3 / 4)) ∧
      switchedScore schema naming scores f = finite (3 / 4) := by
  intro naming schema scores f
  have hd : evaluate schema naming scores (.atom "d") = .ok (finite 1) := by
    subst naming schema scores
    cbv
  have hm : evaluate schema naming scores (.atom "m") = .ok (finite 0) := by
    subst naming schema scores
    cbv
  have htrue : evaluate schema naming scores (.atom "TRUE") = .ok (finite 1) := by
    subst naming schema scores
    cbv
  have hcrisp : ∀ θ ∈ f.weights, evaluate schema naming scores (.atom θ) = .ok (finite 0) ∨
      evaluate schema naming scores (.atom θ) = .ok (finite 1) := by
    intro θ hθ
    have hname : θ = "d" ∨ θ = "m" ∨ θ = "TRUE" ∨ θ = "d" := by
      simpa [f, Formula.weights] using hθ
    rcases hname with rfl | rfl | rfl | rfl
    · exact Or.inr hd
    · exact Or.inl hm
    · exact Or.inr htrue
    · exact Or.inr hd
  have hscore : evaluate schema naming scores f.expand = .ok (finite (3 / 4)) := by
    subst naming schema scores f
    cbv
  have h := evaluate_expand_eq_switchedScore schema naming scores hcrisp
  exact ⟨hcrisp, hscore, Except.ok.inj (h.symm.trans hscore)⟩

end GradedQuery
