import GradedQuery.Proofs.CrispScores
import GradedQuery.Proofs.OpenAtoms

/-!
# Scores as probabilities

Product and probabilistic sum are how independent events are joined, so that a score looks like the
probability that the formula holds when each atom is true with its score as the probability,
independently of the others.  It is that probability as long as no atom stands in two places; an
atom joined with itself is counted twice.

The probability is the sum, over all assignments to the open atoms, of the weights of those under
which the formula holds.  On such an assignment the score is the truth value
(`Formula.score_of_crisp`), so that the probability is the *expectation* of the score, and
**the expectation takes the place of the score at every node** (`Formula.score_eq_expectation`):

* the weights of all assignments make up 1, for negations (`expectation_one_sub`);
* the assignments to two disjoint sets of atoms are the pairs of assignments to each, with the
  product of the weights (`expectation_mul`).  This is the only step that needs the formula to be
  read once.
-/

namespace GradedQuery

open Extended

/-! ## Assignments and their weights -/

section

variable (p : String → ℚ) {A B S T : Finset String} {g h : Finset String → ℚ}

/-- The probability that of the atoms in `A` exactly those in `T` are true. -/
def worldWeight (A T : Finset String) : ℚ := ∏ a ∈ A, if a ∈ T then p a else 1 - p a

/-- The expected value of what depends on which of the atoms in `A` are true. -/
def expectation (A : Finset String) (g : Finset String → ℚ) : ℚ :=
  ∑ T ∈ A.powerset, worldWeight p A T * g T

lemma worldWeight_union (hAB : Disjoint A B) (hS : S ⊆ A) (hT : T ⊆ B) :
    worldWeight p (A ∪ B) (S ∪ T) = worldWeight p A S * worldWeight p B T := by
  rw [worldWeight, Finset.prod_union hAB]
  congr 1
  · refine Finset.prod_congr rfl fun a ha => ?_
    have hnot : a ∉ T := fun h => Finset.disjoint_left.1 hAB ha (hT h)
    simp only [Finset.mem_union, hnot, or_false]
  · refine Finset.prod_congr rfl fun a ha => ?_
    have hnot : a ∉ S := fun h => Finset.disjoint_left.1 hAB (hS h) ha
    simp only [Finset.mem_union, hnot, false_or]

/-- **The weights of all assignments make up 1.** -/
lemma sum_worldWeight (A : Finset String) : ∑ T ∈ A.powerset, worldWeight p A T = 1 := by
  have hweight : ∀ T ∈ A.powerset,
      worldWeight p A T = (∏ a ∈ T, p a) * ∏ a ∈ A \ T, (1 - p a) := by
    intro T hT
    rw [worldWeight, Finset.prod_ite, Finset.filter_mem_eq_inter,
      Finset.inter_eq_right.2 (Finset.mem_powerset.1 hT), Finset.filter_notMem_eq_sdiff]
  rw [Finset.sum_congr rfl hweight, ← Finset.prod_add]
  simp

lemma expectation_one_sub : expectation p A (fun T => 1 - g T) = 1 - expectation p A g := by
  simp only [expectation, mul_sub, mul_one, Finset.sum_sub_distrib, sum_worldWeight]

/-- The subsets of a union of disjoint sets are the unions of a subset of each. -/
lemma sum_powerset_union (hAB : Disjoint A B) :
    ∑ U ∈ (A ∪ B).powerset, g U = ∑ S ∈ A.powerset, ∑ T ∈ B.powerset, g (S ∪ T) := by
  rw [← Finset.sum_product']
  refine (Finset.sum_nbij' (fun q => q.1 ∪ q.2) (fun U => (U ∩ A, U ∩ B)) ?_ ?_ ?_ ?_ ?_).symm
  · rintro ⟨S, T⟩ hq
    rw [Finset.mem_product, Finset.mem_powerset, Finset.mem_powerset] at hq
    exact Finset.mem_powerset.2 (Finset.union_subset_union hq.1 hq.2)
  · intro U hU
    exact Finset.mem_product.2 ⟨Finset.mem_powerset.2 Finset.inter_subset_right,
      Finset.mem_powerset.2 Finset.inter_subset_right⟩
  · rintro ⟨S, T⟩ hq
    rw [Finset.mem_product, Finset.mem_powerset, Finset.mem_powerset] at hq
    have hSB : S ∩ B = ∅ := Finset.disjoint_iff_inter_eq_empty.1 (hAB.mono_left hq.1)
    have hTA : T ∩ A = ∅ := Finset.disjoint_iff_inter_eq_empty.1 (hAB.symm.mono_left hq.2)
    show ((S ∪ T) ∩ A, (S ∪ T) ∩ B) = (S, T)
    rw [Finset.union_inter_distrib_right, Finset.union_inter_distrib_right, hSB, hTA,
      Finset.inter_eq_left.2 hq.1, Finset.inter_eq_left.2 hq.2, Finset.union_empty,
      Finset.empty_union]
  · intro U hU
    show U ∩ A ∪ U ∩ B = U
    rw [← Finset.inter_union_distrib_left, Finset.inter_eq_left.2 (Finset.mem_powerset.1 hU)]
  · intro q hq
    rfl

/-- **What depends on one set of atoms is independent of what depends on a disjoint one.** -/
lemma expectation_mul (hAB : Disjoint A B) (hg : ∀ S ⊆ A, ∀ T ⊆ B, g (S ∪ T) = g S)
    (hh : ∀ S ⊆ A, ∀ T ⊆ B, h (S ∪ T) = h T) :
    expectation p (A ∪ B) (fun U => g U * h U) = expectation p A g * expectation p B h := by
  rw [expectation, sum_powerset_union hAB, expectation, expectation, Finset.sum_mul_sum]
  refine Finset.sum_congr rfl fun S hS => Finset.sum_congr rfl fun T hT => ?_
  rw [Finset.mem_powerset] at hS hT
  rw [worldWeight_union p hAB hS hT, hg S hS T hT, hh S hS T hT]
  ring

end

/-! ## Formulas -/

namespace Formula

variable {f l r : Formula} {p q : String → ℚ} {S T : Finset String}

/-- The scores that count with 1 for the atoms in a set and with 0 for the others. -/
def crisp (T : Finset String) (a : String) : ℚ := if a ∈ T then 1 else 0

/-- The probability that a plain formula holds if its open atoms are true with the probabilities
`p`, independently of each other. -/
def probability (p : String → ℚ) (f : Formula) : ℚ :=
  ∑ T ∈ f.openAtoms.powerset with f.holds (fun a => decide (a ∈ T)) = true,
    worldWeight p f.openAtoms T

/-- The score depends on the scores of the open atoms only. -/
lemma score_congr (h : ∀ a ∈ f.openAtoms, p a = q a) : f.score p = f.score q := by
  induction f with
  | atom name =>
      rw [score, score]
      split_ifs with htrue hfalse
      · rfl
      · rfl
      · exact h name (mem_openAtoms.2 ⟨List.mem_singleton.2 rfl, htrue, hfalse⟩)
  | not f ih => rw [score, score, ih h]
  | and l r ihl ihr =>
      have hparts := Finset.forall_mem_union.1 (openAtoms_join .and l r ▸ h)
      rw [score, score, ihl hparts.1, ihr hparts.2]
  | or l r ihl ihr =>
      have hparts := Finset.forall_mem_union.1 (openAtoms_join .or l r ▸ h)
      rw [score, score, ihl hparts.1, ihr hparts.2]
  | weightedAnd θ₁ θ₂ l r | weightedOr θ₁ θ₂ l r => rfl

lemma score_crisp_union (h : Disjoint f.openAtoms T) :
    f.score (crisp (S ∪ T)) = f.score (crisp S) :=
  score_congr fun a ha => by
    simp only [crisp, Finset.mem_union, Finset.disjoint_left.1 h ha, or_false]

lemma expectation_parts (h : Disjoint l.openAtoms r.openAtoms) (u : ℚ → ℚ) :
    expectation p (l.openAtoms ∪ r.openAtoms)
        (fun T => u (l.score (crisp T)) * u (r.score (crisp T))) =
      expectation p l.openAtoms (fun T => u (l.score (crisp T))) *
        expectation p r.openAtoms (fun T => u (r.score (crisp T))) := by
  refine expectation_mul p h (fun S _ T hT => ?_) fun S hS T _ => ?_
  · rw [score_crisp_union (h.mono_right hT)]
  · rw [Finset.union_comm, score_crisp_union (h.symm.mono_right hS)]

/-- **Read once, a formula has the score that is expected on crisp data.** -/
lemma score_eq_expectation (hf : f.ReadOnce) :
    f.score p = expectation p f.openAtoms fun T => f.score (crisp T) := by
  induction f with
  | atom name =>
      by_cases htrue : name = trueName
      · simp [expectation, sum_worldWeight, score, htrue]
      · by_cases hfalse : name = falseName
        · simp [expectation, score, hfalse, show falseName ≠ trueName by decide]
        · have hopen : (atom name).openAtoms = {name} := by
            ext a
            simp only [mem_openAtoms, names, List.mem_singleton, Finset.mem_singleton]
            exact ⟨fun h => h.1, fun h => ⟨h, h ▸ htrue, h ▸ hfalse⟩⟩
          simp [expectation, hopen, score, htrue, hfalse, crisp, worldWeight,
            show ({name} : Finset String).powerset = {∅, {name}} from rfl]
  | not f ih =>
      simp only [score]
      rw [ih hf]
      exact (expectation_one_sub p).symm
  | and l r ihl ihr =>
      obtain ⟨hl, hr, hdisj⟩ := (readOnce_join .and).1 hf
      rw [score, ihl hl, ihr hr]
      exact (openAtoms_join .and l r ▸ expectation_parts hdisj id).symm
  | or l r ihl ihr =>
      obtain ⟨hl, hr, hdisj⟩ := (readOnce_join .or).1 hf
      -- the sum is the complement of the product of the complements
      have hsum : ∀ p : String → ℚ,
          (Formula.or l r).score p = 1 - (1 - l.score p) * (1 - r.score p) := by
        intro p
        rw [score]
        ring
      have hparts := expectation_parts (p := p) hdisj fun x => 1 - x
      rw [expectation_one_sub, expectation_one_sub, ← ihl hl, ← ihr hr] at hparts
      simp only [hsum]
      rw [expectation_one_sub]
      exact congrArg (1 - ·) (openAtoms_join .or l r ▸ hparts).symm
  | weightedAnd θ₁ θ₂ l r | weightedOr θ₁ θ₂ l r => simp [score, expectation]

/-- **Read once, a plain formula has the probability that it holds as its score.** -/
lemma score_eq_probability (hf : f.isExpanded = true) (honce : f.ReadOnce) :
    f.score p = f.probability p := by
  rw [score_eq_expectation honce, expectation, probability, Finset.sum_filter]
  refine Finset.sum_congr rfl fun T _ => ?_
  have hcrisp : f.score (crisp T) = if f.holds (fun a => decide (a ∈ T)) then 1 else 0 :=
    score_of_crisp hf fun a _ _ _ => by rw [crisp]; simp only [decide_eq_true_eq]
  rw [hcrisp, mul_ite, mul_one, mul_zero]

end Formula

variable (schema : Schema) (naming : Naming) (scores : Scores Extended) {f : Formula}

/-- **A formula without repeated atoms is scored by the probability that it holds**, when its atoms
are true independently of each other, each with the score that counts for it as the probability.
These scores are probabilities, an assignment matters by the open atoms that it makes true, and the
weights of these sets of atoms make up 1. -/
theorem evaluate_eq_probability (hf : f.isExpanded = true) (honce : f.ReadOnce) :
    (∀ a, atomScore schema naming scores a = finite (atomGrade schema naming scores a) ∧
        0 ≤ atomGrade schema naming scores a ∧ atomGrade schema naming scores a ≤ 1) ∧
      (∀ s, f.holds s = f.holds fun a => decide (a ∈ f.openAtoms.filter fun a => s a = true)) ∧
      ∑ T ∈ f.openAtoms.powerset, worldWeight (atomGrade schema naming scores) f.openAtoms T = 1 ∧
      evaluate schema naming scores f =
        .ok (finite (f.probability (atomGrade schema naming scores))) := by
  refine ⟨fun a => ⟨atomScore_eq_finite schema naming scores a,
    atomGrade_nonneg schema naming scores a, atomGrade_le_one schema naming scores a⟩,
    fun s => ?_, sum_worldWeight _ _, ?_⟩
  · refine Formula.holds_congr_openAtoms hf fun a ha => ?_
    rw [Bool.eq_iff_iff, decide_eq_true_eq, Finset.mem_filter, and_iff_right ha]
  · rw [evaluate_eq_score schema naming scores hf, Formula.score_eq_probability hf honce]

/-- A fact above the threshold, a score that is no number, and a constant in two places. -/
theorem evaluate_eq_probability_repeatedConstant :
    let naming : Naming := fun a => if a = "d" then "d" else "q"
    let schema : Schema := .ofList [("d", .db)]
    let scores : Scores Extended :=
      .ofList [("d", finite (3 / 4)), ("p", finite (1 / 2)), ("t", finite (1 / 4)), ("n", nan)]
    let f : Formula := .or (.and (.atom "d") (.and (.atom "p") (.atom "TRUE")))
      (.and (.not (.or (.atom "t") (.atom "n"))) (.atom "TRUE"))
    f.isExpanded = true ∧ f.ReadOnce ∧ f.openAtoms = {"d", "p", "t", "n"} ∧
      evaluate schema naming scores f = .ok (finite (7 / 8)) ∧
      f.probability (atomGrade schema naming scores) = 7 / 8 := by
  intro naming schema scores f
  have honce : f.ReadOnce := by decide
  have hscore : evaluate schema naming scores f = .ok (finite (7 / 8)) := by cbv
  have h := (evaluate_eq_probability schema naming scores (f := f) rfl honce).2.2.2
  exact ⟨rfl, honce, by decide, hscore, finite.inj (Except.ok.inj (h.symm.trans hscore))⟩

end GradedQuery
