import GradedQuery.Dnf.OfFormula
import GradedQuery.Proofs.Dnf
import GradedQuery.Proofs.Outcome

/-!
# Between formulas and normal forms

`Dnf.ofSigned` pushes a negation down while it converts, so what it computes is the normal form of
the formula or of its negation: **`Dnf.holds_ofSigned`** says that in one equation for both
polarities.  It succeeds on every plain formula (`Dnf.exists_ofSigned`) and its results are
well-formed.

Back again, the formula of a well-formed normal form means the same (`Dnf.holds_toFormula`).
-/

namespace GradedQuery

variable {f : Formula} {s : String → Bool}

/-! ## From formulas to normal forms -/

namespace Dnf

variable {d : Dnf} {negated : Bool}

/-- Under a negation conjunction turns into disjunction, and the values follow. -/
lemma holds_meet (s : String → Bool) (negated : Bool) (d e : Dnf) :
    (meet negated d e).holds s =
      (((d.holds s != negated) && (e.holds s != negated)) != negated) := by
  cases negated with
  | false => simp [meet, holds_and]
  | true => simp [meet, holds_or]

lemma holds_join (s : String → Bool) (negated : Bool) (d e : Dnf) :
    (join negated d e).holds s =
      (((d.holds s != negated) || (e.holds s != negated)) != negated) := by
  cases negated with
  | false => simp [join, holds_or]
  | true => simp [join, holds_and]

lemma WellFormed.meet {d e : Dnf} (hd : d.WellFormed) (he : e.WellFormed) (negated : Bool) :
    (meet negated d e).WellFormed := by
  cases negated with
  | false => exact hd.and he
  | true => exact hd.or he

lemma WellFormed.join {d e : Dnf} (hd : d.WellFormed) (he : e.WellFormed) (negated : Bool) :
    (join negated d e).WellFormed := by
  cases negated with
  | false => exact hd.or he
  | true => exact hd.and he

/-- Every plain formula has a normal form, in both polarities. -/
lemma exists_ofSigned (hf : f.isExpanded = true) (negated : Bool) :
    ∃ d, ofSigned negated f = .ok d := by
  induction f generalizing negated with
  | atom name => exact ⟨_, rfl⟩
  | not f ih => exact ih hf (!negated)
  | and l r ihl ihr =>
      rw [Formula.isExpanded, Bool.and_eq_true] at hf
      obtain ⟨d, hd⟩ := ihl hf.1 negated
      obtain ⟨e, he⟩ := ihr hf.2 negated
      exact ⟨meet negated d e, by rw [ofSigned, hd, he]; rfl⟩
  | or l r ihl ihr =>
      rw [Formula.isExpanded, Bool.and_eq_true] at hf
      obtain ⟨d, hd⟩ := ihl hf.1 negated
      obtain ⟨e, he⟩ := ihr hf.2 negated
      exact ⟨join negated d e, by rw [ofSigned, hd, he]; rfl⟩
  | weightedAnd θ₁ θ₂ l r => exact absurd hf Bool.false_ne_true
  | weightedOr θ₁ θ₂ l r => exact absurd hf Bool.false_ne_true

/-- What a successful conversion of a formula with two parts consists of. -/
lemma ofSigned_and {l r : Formula} (h : ofSigned negated (.and l r) = .ok d) :
    ∃ dl dr, ofSigned negated l = .ok dl ∧ ofSigned negated r = .ok dr ∧
      d = meet negated dl dr := by
  rw [ofSigned, bind_eq_ok_iff] at h
  obtain ⟨dl, hl, h⟩ := h
  obtain ⟨dr, hr, h⟩ := bind_eq_ok_iff.1 h
  cases h
  exact ⟨dl, dr, hl, hr, rfl⟩

lemma ofSigned_or {l r : Formula} (h : ofSigned negated (.or l r) = .ok d) :
    ∃ dl dr, ofSigned negated l = .ok dl ∧ ofSigned negated r = .ok dr ∧
      d = join negated dl dr := by
  rw [ofSigned, bind_eq_ok_iff] at h
  obtain ⟨dl, hl, h⟩ := h
  obtain ⟨dr, hr, h⟩ := bind_eq_ok_iff.1 h
  cases h
  exact ⟨dl, dr, hl, hr, rfl⟩

/-- Only plain formulas have a normal form. -/
lemma isExpanded_of_ofSigned (h : ofSigned negated f = .ok d) : f.isExpanded = true := by
  induction f generalizing negated d with
  | atom name => rfl
  | not f ih => exact ih h
  | and l r ihl ihr =>
      obtain ⟨dl, dr, hl, hr, -⟩ := ofSigned_and h
      rw [Formula.isExpanded, ihl hl, ihr hr]
      rfl
  | or l r ihl ihr =>
      obtain ⟨dl, dr, hl, hr, -⟩ := ofSigned_or h
      rw [Formula.isExpanded, ihl hl, ihr hr]
      rfl
  | weightedAnd θ₁ θ₂ l r => cases h
  | weightedOr θ₁ θ₂ l r => cases h

/-- **The normal form computed under a polarity is that of the formula under it.** -/
lemma holds_ofSigned (s : String → Bool) (h : ofSigned negated f = .ok d) :
    d.holds s = (f.holds s != negated) := by
  induction f generalizing negated d with
  | atom name =>
      cases h
      exact holds_ofLiteral s ⟨name, negated⟩
  | not f ih =>
      rw [ih h, Formula.holds]
      cases f.holds s <;> cases negated <;> rfl
  | and l r ihl ihr =>
      obtain ⟨dl, dr, hl, hr, rfl⟩ := ofSigned_and h
      rw [holds_meet, ihl hl, ihr hr, Formula.holds]
      cases l.holds s <;> cases r.holds s <;> cases negated <;> rfl
  | or l r ihl ihr =>
      obtain ⟨dl, dr, hl, hr, rfl⟩ := ofSigned_or h
      rw [holds_join, ihl hl, ihr hr, Formula.holds]
      cases l.holds s <;> cases r.holds s <;> cases negated <;> rfl
  | weightedAnd θ₁ θ₂ l r => cases h
  | weightedOr θ₁ θ₂ l r => cases h

lemma WellFormed.ofSigned (h : ofSigned negated f = .ok d) : d.WellFormed := by
  induction f generalizing negated d with
  | atom name =>
      cases h
      exact WellFormed.ofLiteral ⟨name, negated⟩
  | not f ih => exact ih h
  | and l r ihl ihr =>
      obtain ⟨dl, dr, hl, hr, rfl⟩ := ofSigned_and h
      exact (ihl hl).meet (ihr hr) negated
  | or l r ihl ihr =>
      obtain ⟨dl, dr, hl, hr, rfl⟩ := ofSigned_or h
      exact (ihl hl).join (ihr hr) negated
  | weightedAnd θ₁ θ₂ l r => cases h
  | weightedOr θ₁ θ₂ l r => cases h

lemma ofFormulaIn_eq_ok {stage : Stage} :
    ofFormulaIn stage f = .ok d ↔ ofSigned false f = .ok d :=
  mapError_eq_ok_iff

lemma WellFormed.ofFormula (h : ofFormula f = .ok d) : d.WellFormed :=
  WellFormed.ofSigned (ofFormulaIn_eq_ok.1 h)

/-- **Every plain formula has a normal form**, which is well-formed and means the same. -/
lemma exists_ofFormula (hf : f.isExpanded = true) :
    ∃ d, ofFormula f = .ok d ∧ d.WellFormed ∧ ∀ s, d.holds s = f.holds s := by
  obtain ⟨d, hd⟩ := exists_ofSigned hf false
  refine ⟨d, ofFormulaIn_eq_ok.2 hd, WellFormed.ofSigned hd, fun s => ?_⟩
  rw [holds_ofSigned s hd, Bool.bne_false]

end Dnf

/-! ## From normal forms to formulas -/

namespace Formula

/-- A conjunction to the left holds if its first part and all others do. -/
lemma holds_foldl_and (s : String → Bool) (f : Formula) (fs : List Formula) :
    (fs.foldl Formula.and f).holds s = (f.holds s && fs.all (·.holds s)) := by
  induction fs generalizing f with
  | nil => simp
  | cons g fs ih => rw [List.foldl_cons, ih, holds, List.all_cons, Bool.and_assoc]

lemma holds_foldl_or (s : String → Bool) (f : Formula) (fs : List Formula) :
    (fs.foldl Formula.or f).holds s = (f.holds s || fs.any (·.holds s)) := by
  induction fs generalizing f with
  | nil => simp
  | cons g fs ih => rw [List.foldl_cons, ih, holds, List.any_cons, Bool.or_assoc]

end Formula

/-- A literal that speaks about no constant has the value of its formula. -/
lemma Literal.holds_toFormula {l : Literal} (s : String → Bool)
    (h : l.atom ≠ Formula.trueName ∧ l.atom ≠ Formula.falseName) :
    l.toFormula.holds s = l.holds s := by
  have hatom : Formula.atomHolds s l.atom = s l.atom := Formula.atomHolds_of_ne s h.1 h.2
  simp only [toFormula, Literal.holds]
  cases l.negated with
  | false => simp [Formula.holds, hatom]
  | true => simp [Formula.holds, hatom]

lemma Term.holds_toFormula {t : Term} (s : String → Bool) (ht : t.WellFormed) :
    t.toFormula.holds s = t.holds s := by
  have heach : (t.literals.toList.map Literal.toFormula).all (·.holds s) = t.holds s := by
    rw [Bool.eq_iff_iff, List.all_map, List.all_eq_true, Term.holds_iff]
    refine forall₂_congr fun l hl => ?_
    rw [Function.comp_apply, Literal.holds_toFormula s (ht.noConstant l hl)]
  rw [← heach, toFormula]
  split
  · next hnil => rw [hnil]; rfl
  · next f rest hcons => rw [hcons, Formula.holds_foldl_and]; rfl

/-- **The formula of a well-formed normal form means the same.** -/
lemma Dnf.holds_toFormula {d : Dnf} (s : String → Bool) (hd : d.WellFormed) :
    d.toFormula.holds s = d.holds s := by
  have heach : (d.terms.toList.map Term.toFormula).any (·.holds s) = d.holds s := by
    rw [Bool.eq_iff_iff, List.any_map, List.any_eq_true, Dnf.holds_iff]
    refine exists_congr fun t => and_congr_right fun ht => ?_
    rw [Function.comp_apply, Term.holds_toFormula s (hd.terms t ht)]
  rw [← heach, toFormula]
  split
  · next hnil => rw [hnil]; rfl
  · next f rest hcons => rw [hcons, Formula.holds_foldl_or]; rfl

end GradedQuery
