import GradedQuery.Proofs.ExactScores

/-!
# Which way a score moves

A higher score for one atom can raise the score of a query or lower it.  Which of the two is seen
from the negations above the atom: **under even numbers of negations only, it never lowers the score
of the formula, and under odd numbers only it never raises it** (`evaluate_le_of_raised`).

* `atomGrade_le_of_raised` — the score that counts for an atom grows with the one given for it,
  through the clamp and across the threshold of database facts.
* `Formula.negationsOver` — the numbers of negations above the occurrences of an atom.
* `Formula.Favours` — the second of two assignments of scores differs from the first one as every
  occurrence asks for.  Both sides of a connective inherit this, and a negation exchanges the
  assignments, so that **one induction serves both directions** (`Formula.score_le_of_favours`).  It
  needs the scores to be in [0, 1], where product and probabilistic sum grow with their arguments.
-/

namespace GradedQuery

open Extended

/-! ## The scores that count for atoms -/

section

variable {x y : Extended} {schema : Schema} {naming : Naming} {scores scores' : Scores Extended}
  {a : String}

/-- What is not less counts not less. -/
lemma unitGrade_le (hy : y ≠ nan) (hless : Grade.less y x = false) :
    unitGrade x ≤ unitGrade y := by
  cases x with
  | finite p =>
      cases y with
      | finite q =>
          have hpq : p ≤ q := by simpa [less_finite] using hless
          exact max_le_max le_rfl (min_le_min hpq le_rfl)
      | posInf => exact (unitGrade_mem (finite p)).2
      | negInf => cases hless
      | nan => exact absurd rfl hy
  | posInf =>
      cases y with
      | finite q => cases hless
      | posInf => exact le_rfl
      | negInf => cases hless
      | nan => exact absurd rfl hy
  | negInf => exact (unitGrade_mem y).1
  | nan => exact (unitGrade_mem y).1

/-- The threshold of database facts keeps the order. -/
lemma gradeFor_mono (t : AttributeType) : Monotone (gradeFor t) := by
  intro p q hpq
  cases t with
  | db =>
      rw [gradeFor, gradeFor]
      split_ifs with hp hq
      · exact le_rfl
      · exact zero_le_one
      · next hq => exact absurd (hpq.trans_lt hq) hp
      · exact le_rfl
  | prox => exact hpq
  | text => exact hpq

/-- **The score that counts for an atom grows with the given one.**  A missing score is 0; whatever
takes its place counts no less. -/
lemma atomGrade_le_of_raised
    (hraised : ∀ u, scores.get? a = some u →
      rawScore scores' a ≠ nan ∧ Grade.less (rawScore scores' a) u = false) :
    atomGrade schema naming scores a ≤ atomGrade schema naming scores' a := by
  rw [atomGrade_eq, atomGrade_eq]
  refine gradeFor_mono _ ?_
  cases hgiven : scores.get? a with
  | none =>
      have hzero : unitGrade (rawScore scores a) = 0 := by
        rw [rawScore, hgiven]
        rfl
      rw [hzero]
      exact (unitGrade_mem _).1
  | some u =>
      have hraw : rawScore scores a = u := by rw [rawScore, hgiven, Option.getD_some]
      rw [hraw]
      exact unitGrade_le (hraised u hgiven).1 (hraised u hgiven).2

end

/-! ## Negations above an atom -/

namespace Formula

variable {f l r : Formula} {p q : String → ℚ} {x : String}

/-- For each occurrence of an atom in a plain formula, from left to right, the number of negations
that it stands under. -/
def negationsOver (a : String) : Formula → List ℕ
  | .atom name => if name = a then [0] else []
  | .not f => (f.negationsOver a).map (· + 1)
  | .and l r | .or l r => l.negationsOver a ++ r.negationsOver a
  | .weightedAnd .. | .weightedOr .. => []

/-- Whether the scores `q` are at least `p` where an atom stands under an even number of negations,
and at most `p` where it stands under an odd one. -/
def Favours (f : Formula) (p q : String → ℚ) : Prop :=
  ∀ a, ∀ n ∈ f.negationsOver a, (Even n → p a ≤ q a) ∧ (Odd n → q a ≤ p a)

lemma negationsOver_join (c : Connective) (a : String) :
    (c.join l r).negationsOver a = l.negationsOver a ++ r.negationsOver a := by
  cases c <;> rfl

lemma Favours.atom_le {name : String} (h : (atom name).Favours p q) : p name ≤ q name :=
  (h name 0 (by simp [negationsOver])).1 Even.zero

/-- A negation exchanges the two. -/
lemma Favours.of_not (h : (not f).Favours p q) : f.Favours q p := by
  intro a n hn
  have hstep := h a (n + 1) (List.mem_map.2 ⟨n, hn, rfl⟩)
  exact ⟨fun heven => hstep.2 heven.add_one, fun hodd => hstep.1 hodd.add_one⟩

lemma favours_join (c : Connective) :
    (c.join l r).Favours p q ↔ l.Favours p q ∧ r.Favours p q := by
  simp only [Favours, negationsOver_join, List.forall_mem_append]
  exact forall_and

/-- **Scores that differ as every occurrence asks for lead to a score that is not lower.** -/
lemma score_le_of_favours (hp0 : ∀ a, 0 ≤ p a) (hp1 : ∀ a, p a ≤ 1) (hq0 : ∀ a, 0 ≤ q a)
    (hq1 : ∀ a, q a ≤ 1) (h : f.Favours p q) : f.score p ≤ f.score q := by
  induction f generalizing p q with
  | atom name =>
      rw [score, score]
      split_ifs with htrue hfalse
      · exact le_rfl
      · exact le_rfl
      · exact h.atom_le
  | not f ih =>
      rw [score, score]
      exact sub_le_sub_left (ih hq0 hq1 hp0 hp1 h.of_not) 1
  | and l r ihl ihr =>
      obtain ⟨hl, hr⟩ := (favours_join .and).1 h
      rw [score, score]
      exact mul_le_mul (ihl hp0 hp1 hq0 hq1 hl) (ihr hp0 hp1 hq0 hq1 hr) (r.score_mem hp0 hp1).1
        (l.score_mem hq0 hq1).1
  | or l r ihl ihr =>
      obtain ⟨hl, hr⟩ := (favours_join .or).1 h
      -- the complements fall, and with them their product
      rw [score_or, score_or]
      refine sub_le_sub_left (mul_le_mul ?_ ?_ ?_ ?_) 1
      · exact sub_le_sub_left (ihl hp0 hp1 hq0 hq1 hl) 1
      · exact sub_le_sub_left (ihr hp0 hp1 hq0 hq1 hr) 1
      · exact sub_nonneg.2 (r.score_mem hq0 hq1).2
      · exact sub_nonneg.2 (l.score_mem hp0 hp1).2
  | weightedAnd θ₁ θ₂ l r => exact le_rfl
  | weightedOr θ₁ θ₂ l r => exact le_rfl

/-! ### One atom -/

lemma favours_of_even (hsame : ∀ a, a ≠ x → p a = q a) (hle : p x ≤ q x)
    (heven : ∀ n ∈ f.negationsOver x, Even n) : f.Favours p q := by
  intro a n hn
  by_cases ha : a = x
  · subst ha
    exact ⟨fun _ => hle, fun hodd => absurd (heven n hn) (Nat.not_even_iff_odd.2 hodd)⟩
  · exact ⟨fun _ => (hsame a ha).le, fun _ => (hsame a ha).ge⟩

lemma favours_of_odd (hsame : ∀ a, a ≠ x → p a = q a) (hle : p x ≤ q x)
    (hodd : ∀ n ∈ f.negationsOver x, Odd n) : f.Favours q p := by
  have heven : ∀ n ∈ (not f).negationsOver x, Even n := by
    intro n hn
    obtain ⟨m, hm, rfl⟩ := List.mem_map.1 hn
    exact (hodd m hm).add_one
  exact (favours_of_even hsame hle heven).of_not

end Formula

/-! ## Scores of a formula -/

/-- **A higher score for an atom that stands under even numbers of negations never lowers the score
of a formula, and under odd numbers it never raises it.**  The score in `scores'` is compared with
the one given in `scores`; what is given where no score was before is not lower, and one that is
missing afterwards is 0. -/
theorem evaluate_le_of_raised (schema : Schema) (naming : Naming) {scores scores' : Scores Extended}
    {f : Formula} {x : String} (hf : f.isExpanded = true)
    (hsame : ∀ a, a ≠ x → scores.get? a = scores'.get? a)
    (hraised : ∀ u, scores.get? x = some u →
      rawScore scores' x ≠ nan ∧ Grade.less (rawScore scores' x) u = false) :
    ∃ q q' : ℚ, evaluate schema naming scores f = .ok (finite q) ∧
      evaluate schema naming scores' f = .ok (finite q') ∧
      ((∀ n ∈ f.negationsOver x, Even n) → q ≤ q') ∧
      ((∀ n ∈ f.negationsOver x, Odd n) → q' ≤ q) := by
  set p := atomGrade schema naming scores with hp
  set p' := atomGrade schema naming scores' with hp'
  have hp0 : ∀ a, 0 ≤ p a := atomGrade_nonneg schema naming scores
  have hp1 : ∀ a, p a ≤ 1 := atomGrade_le_one schema naming scores
  have hp0' : ∀ a, 0 ≤ p' a := atomGrade_nonneg schema naming scores'
  have hp1' : ∀ a, p' a ≤ 1 := atomGrade_le_one schema naming scores'
  have hx : p x ≤ p' x := atomGrade_le_of_raised hraised
  have hothers : ∀ a, a ≠ x → p a = p' a := by
    intro a ha
    rw [hp, hp', atomGrade_eq, atomGrade_eq, rawScore, rawScore, hsame a ha]
  refine ⟨f.score p, f.score p', evaluate_eq_score schema naming scores hf,
    evaluate_eq_score schema naming scores' hf, fun heven => ?_, fun hodd => ?_⟩
  · exact Formula.score_le_of_favours hp0 hp1 hp0' hp1' (Formula.favours_of_even hothers hx heven)
  · exact Formula.score_le_of_favours hp0' hp1' hp0 hp1 (Formula.favours_of_odd hothers hx hodd)

/-- The atom `x` stands under two negations and under none; one more negation turns it round. -/
theorem evaluate_le_of_raised_infinite :
    let schema : Schema := .ofList []
    let scores : Scores Extended :=
      .ofList [("x", finite (1 / 4)), ("y", finite (1 / 2)), ("z", finite (1 / 2))]
    let scores' : Scores Extended :=
      .ofList [("x", posInf), ("y", finite (1 / 2)), ("z", finite (1 / 2))]
    let f : Formula := .or (.not (.and (.not (.atom "x")) (.atom "y")))
      (.and (.atom "x") (.atom "z"))
    (∀ a, a ≠ "x" → scores.get? a = scores'.get? a) ∧
      (∀ u, scores.get? "x" = some u →
        rawScore scores' "x" ≠ nan ∧ Grade.less (rawScore scores' "x") u = false) ∧
      (∀ n ∈ f.negationsOver "x", Even n) ∧ (∀ n ∈ (Formula.not f).negationsOver "x", Odd n) ∧
      evaluate schema defaultNaming scores f = .ok (finite (43 / 64)) ∧
      (∃ q, evaluate schema defaultNaming scores' f = .ok (finite q) ∧ 43 / 64 ≤ q) ∧
      evaluate schema defaultNaming scores (.not f) = .ok (finite (21 / 64)) ∧
      ∃ q, evaluate schema defaultNaming scores' (.not f) = .ok (finite q) ∧ q ≤ 21 / 64 := by
  intro schema scores scores' f
  have hsame : ∀ a, a ≠ "x" → scores.get? a = scores'.get? a := by
    intro a ha
    simp [scores, scores', OrderedMap.ofList, ha]
  have hraised : ∀ u, scores.get? "x" = some u →
      rawScore scores' "x" ≠ nan ∧ Grade.less (rawScore scores' "x") u = false := by
    intro u hu
    have hgiven : scores.get? "x" = some (finite (1 / 4)) := by simp [scores, OrderedMap.ofList]
    obtain rfl : finite (1 / 4) = u := Option.some.inj (hgiven.symm.trans hu)
    exact ⟨by decide, by decide⟩
  have heven : ∀ n ∈ f.negationsOver "x", Even n := by decide
  have hodd : ∀ n ∈ (Formula.not f).negationsOver "x", Odd n := by decide
  have hscore : evaluate schema defaultNaming scores f = .ok (finite (43 / 64)) := by
    subst schema scores f
    cbv
  have hscoreNot : evaluate schema defaultNaming scores (.not f) = .ok (finite (21 / 64)) := by
    subst schema scores f
    cbv
  obtain ⟨q, q', hq, hq', hup, -⟩ := evaluate_le_of_raised schema defaultNaming
    (f := f) rfl hsame hraised
  obtain ⟨r, r', hr, hr', -, hdown⟩ := evaluate_le_of_raised schema defaultNaming
    (f := .not f) rfl hsame hraised
  obtain rfl : q = 43 / 64 := finite.inj (Except.ok.inj (hq.symm.trans hscore))
  obtain rfl : r = 21 / 64 := finite.inj (Except.ok.inj (hr.symm.trans hscoreNot))
  exact ⟨hsame, hraised, heven, hodd, hscore, ⟨q', hq', hup heven⟩, hscoreNot,
    ⟨r', hr', hdown hodd⟩⟩

end GradedQuery
