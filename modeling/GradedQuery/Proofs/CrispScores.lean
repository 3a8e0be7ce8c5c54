import GradedQuery.Proofs.Compilation
import GradedQuery.Proofs.ExactScores
import GradedQuery.Proofs.NormalizedFormula

/-!
# Crisp data

A query has two meanings, a truth value and a score, and they come from different definitions.
Where every atom counts with 0 or 1 the data are crisp, and **the score of a formula is its truth
value** (`evaluate_of_isCrisp`): on 0 and 1 the complement, the product and the probabilistic sum
are the truth tables of the connectives.

Which data are crisp is seen from the raw scores (`isCrisp_iff`).  Database facts always are, since
they are decided by the threshold, and missing scores are, since they count as 0.

On graded data normalization changes scores, as overlaps are no longer counted twice.  On crisp data
it does not: the normalized formula has the truth value of the expanded one and no atoms besides
its atoms and the constants.
-/

namespace GradedQuery

open Extended

variable {schema : Schema} {naming : Naming} {scores : Scores Extended} {a : String}

/-! ## Crisp atoms -/

/-- Whether the score that counts for an atom is 0 or 1. -/
def IsCrisp (schema : Schema) (naming : Naming) (scores : Scores Extended) (atom : String) : Prop :=
  atomScore schema naming scores atom = finite 0 ∨ atomScore schema naming scores atom = finite 1

/-- The assignment that makes exactly the atoms true that count with 1. -/
def crispTruth (schema : Schema) (naming : Naming) (scores : Scores Extended) (atom : String) :
    Bool :=
  atomScore schema naming scores atom = finite 1

/-- A number in [0, 1] that counts as 0 or 1 is one of them. -/
lemma clamp_finite_crisp_iff {q : ℚ} :
    (Grade.clamp (finite q) = finite 0 ∨ Grade.clamp (finite q) = finite 1) ↔ q ≤ 0 ∨ 1 ≤ q := by
  constructor
  · intro h
    by_contra hbetween
    simp only [not_or, not_le] at hbetween
    rw [clamp_of_mem hbetween.1.le hbetween.2.le, finite.injEq, finite.injEq] at h
    rcases h with rfl | rfl
    · exact lt_irrefl _ hbetween.1
    · exact lt_irrefl _ hbetween.2
  · exact Or.imp clamp_of_nonpos clamp_of_one_le

/-- **The crisp atoms are the database facts and the atoms whose raw score is missing, no number,
infinite, at most 0 or at least 1.** -/
lemma isCrisp_iff :
    IsCrisp schema naming scores a ↔
      Schema.typeOf schema (naming a) = .db ∨ rawScore scores a = nan ∨
        rawScore scores a = posInf ∨ rawScore scores a = negInf ∨
        ∃ q, rawScore scores a = finite q ∧ (q ≤ 0 ∨ 1 ≤ q) := by
  by_cases hdb : Schema.typeOf schema (naming a) = .db
  · simp [IsCrisp, hdb, atomScore_of_db schema naming scores a hdb]
  · rw [IsCrisp, atomScore_of_ne_db schema naming scores a hdb]
    cases rawScore scores a with
    | finite q => simpa [hdb] using clamp_finite_crisp_iff
    | posInf => simp [show Grade.clamp posInf = finite 1 from rfl]
    | negInf => simp [show Grade.clamp negInf = finite 0 from rfl]
    | nan => simp

lemma IsCrisp.atomGrade_eq (h : IsCrisp schema naming scores a) :
    atomGrade schema naming scores a = if crispTruth schema naming scores a then 1 else 0 := by
  rcases h with h | h
  · simp [atomGrade, crispTruth, h, toRat]
  · simp [atomGrade, crispTruth, h, toRat]

/-! ## Crisp formulas -/

/-- On 0 and 1 the connectives of scores are the truth tables. -/
lemma Formula.score_of_crisp {f : Formula} {p : String → ℚ} {s : String → Bool}
    (hf : f.isExpanded = true)
    (hp : ∀ a ∈ f.names, a ≠ trueName → a ≠ falseName → p a = if s a then 1 else 0) :
    f.score p = if f.holds s then 1 else 0 := by
  induction f with
  | atom name =>
      by_cases htrue : name = trueName
      · simp [score, holds, htrue]
      · by_cases hfalse : name = falseName
        · simp [score, holds, hfalse, show falseName ≠ trueName by decide]
        · rw [score, if_neg htrue, if_neg hfalse, holds, atomHolds_of_ne s htrue hfalse]
          exact hp name (List.mem_singleton.2 rfl) htrue hfalse
  | not f ih =>
      rw [score, holds, ih hf hp]
      cases f.holds s <;> norm_num
  | and l r ihl ihr =>
      rw [isExpanded, Bool.and_eq_true] at hf
      rw [names, List.forall_mem_append] at hp
      rw [score, holds, ihl hf.1 hp.1, ihr hf.2 hp.2]
      cases l.holds s <;> cases r.holds s <;> norm_num
  | or l r ihl ihr =>
      rw [isExpanded, Bool.and_eq_true] at hf
      rw [names, List.forall_mem_append] at hp
      rw [score, holds, ihl hf.1 hp.1, ihr hf.2 hp.2]
      cases l.holds s <;> cases r.holds s <;> norm_num
  | weightedAnd θ₁ θ₂ l r => exact absurd hf Bool.false_ne_true
  | weightedOr θ₁ θ₂ l r => exact absurd hf Bool.false_ne_true

/-- **On crisp data the score of a plain formula is its truth value.** -/
lemma evaluate_of_isCrisp {f : Formula} (hf : f.isExpanded = true)
    (hcrisp : ∀ a ∈ f.names, a ≠ Formula.trueName → a ≠ Formula.falseName →
      IsCrisp schema naming scores a) :
    evaluate schema naming scores f =
      .ok (if f.holds (crispTruth schema naming scores) then finite 1 else finite 0) := by
  have hscore := f.score_of_crisp hf fun a ha htrue hfalse =>
    (hcrisp a ha htrue hfalse).atomGrade_eq
  rw [evaluate_eq_score schema naming scores hf, hscore]
  split <;> rfl

/-! ## Crisp queries -/

/-- **On crisp data a query has its truth value for a score, before and after normalization.**  The
truth value is that of the expanded formula where the atoms are true that count with 1. -/
theorem evaluate_compile_of_isCrisp {opts : SplitOptions} {text : String} {c : Compiled}
    (hc : (compile opts naming text).outcome = .ok c)
    (hcrisp : ∀ a ∈ c.expanded.atoms, a ≠ Formula.trueName → a ≠ Formula.falseName →
      IsCrisp schema naming scores a) :
    evaluate schema naming scores c.expanded =
        .ok (if c.expanded.holds (crispTruth schema naming scores) then finite 1 else finite 0) ∧
      evaluate schema naming scores c.normalized =
        .ok (if c.expanded.holds (crispTruth schema naming scores) then finite 1 else finite 0) ∧
      ∀ a, IsCrisp schema naming scores a ↔
        Schema.typeOf schema (naming a) = .db ∨ rawScore scores a = nan ∨
          rawScore scores a = posInf ∨ rawScore scores a = negInf ∨
          ∃ q, rawScore scores a = finite q ∧ (q ≤ 0 ∨ 1 ≤ q) := by
  obtain ⟨-, hexpand, hnormalize⟩ := outcome_compile_eq_ok.1 hc
  have hatoms : ∀ a ∈ c.expanded.names, a ≠ Formula.trueName → a ≠ Formula.falseName →
      IsCrisp schema naming scores a := fun a ha => hcrisp a (Formula.mem_atoms.2 ha)
  have hexpanded : c.expanded.isExpanded = true := by
    rw [hexpand, Formula.isExpanded_expand]
  refine ⟨evaluate_of_isCrisp hexpanded hatoms, ?_, fun a => isCrisp_iff⟩
  rw [← Formula.holds_of_normalize (crispTruth schema naming scores) hnormalize]
  refine evaluate_of_isCrisp (Formula.isExpanded_of_normalize hnormalize) ?_
  intro a ha htrue hfalse
  rcases Formula.mem_names_of_normalize hnormalize ha with rfl | rfl | ha
  · exact absurd rfl htrue
  · exact absurd rfl hfalse
  · exact hatoms a ha htrue hfalse

/-- A fact at the threshold, an infinite score and one that is no number; `p` is split on. -/
theorem evaluate_compile_of_isCrisp_threshold :
    let naming : Naming := fun a => if a = "b" then "b" else "q"
    let schema : Schema := .ofList [("b", .db)]
    let scores : Scores Extended := .ofList [("b", finite (1 / 2)), ("p", posInf), ("t", nan)]
    let c : Compiled := {
      parsed := .or (.and (.atom "p") (.atom "b")) (.and (.atom "t") (.atom "b"))
      expanded := .or (.and (.atom "p") (.atom "b")) (.and (.atom "t") (.atom "b"))
      normalized := .or (.and (.atom "b") (.atom "p"))
        (.and (.and (.atom "b") (.not (.atom "p"))) (.atom "t")) }
    (compile ⟨.singleton "q", 1⟩ naming "(p & b) | (t & b)").outcome = .ok c ∧
      (∀ a ∈ c.expanded.atoms, IsCrisp schema naming scores a) ∧
      evaluate schema naming scores c.expanded = .ok (finite 1) ∧
      evaluate schema naming scores c.normalized = .ok (finite 1) := by
  intro naming schema scores c
  have hc : (compile ⟨.singleton "q", 1⟩ naming "(p & b) | (t & b)").outcome = .ok c := by
    cbv
  have hb : atomScore schema naming scores "b" = finite 1 := by cbv
  have hp : atomScore schema naming scores "p" = finite 1 := by cbv
  have ht : atomScore schema naming scores "t" = finite 0 := by cbv
  have hcrisp : ∀ a ∈ c.expanded.atoms, IsCrisp schema naming scores a := by
    intro a ha
    have hname : a = "p" ∨ a = "b" ∨ a = "t" ∨ a = "b" := by
      simpa [c, Formula.names] using ha
    rcases hname with rfl | rfl | rfl | rfl
    · exact Or.inr hp
    · exact Or.inr hb
    · exact Or.inl ht
    · exact Or.inr hb
  have htrue : c.expanded.holds (crispTruth schema naming scores) = true := by
    simp [c, Formula.holds, Formula.atomHolds, crispTruth, hb, hp, ht, Formula.trueName,
      Formula.falseName]
  have h := evaluate_compile_of_isCrisp hc fun a ha _ _ => hcrisp a ha
  rw [htrue] at h
  exact ⟨hc, hcrisp, h.1, h.2.1⟩

end GradedQuery
