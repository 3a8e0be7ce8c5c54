import GradedQuery.Proofs.Idempotence

/-!
# What a normalized formula is made of

A query is asked about the atoms that its author wrote.  Normalization repeats atoms and drops
others, but **it brings in no atom of its own** (`Formula.mem_names_of_normalize`), the constants
apart: these are the texts of the normal forms without terms and without literals.  Nor does it
bring in a weighted connective (`Formula.isExpanded_of_normalize`), so that its result can be
scored.
-/

namespace GradedQuery

variable {a : String}

/-! ## Names in a formula to the left -/

namespace Formula

variable {f : Formula} {fs : List Formula}

/-- A conjunction or disjunction to the left has the names of its parts. -/
lemma mem_names_foldl_join (c : Connective) (h : a ∈ (fs.foldl c.join f).names) :
    a ∈ f.names ∨ ∃ g ∈ fs, a ∈ g.names := by
  induction fs generalizing f with
  | nil => exact Or.inl h
  | cons g fs ih =>
      rcases ih h with h | ⟨g', hg', h⟩
      · rw [names_join, List.mem_append] at h
        exact h.imp_right fun h => ⟨g, List.mem_cons_self, h⟩
      · exact Or.inr ⟨g', List.mem_cons_of_mem g hg', h⟩

end Formula

/-! ## From normal forms to formulas -/

lemma Literal.mem_names_toFormula {l : Literal} (h : a ∈ l.toFormula.names) : a = l.atom := by
  rw [toFormula] at h
  split at h
  · simpa [Formula.names] using h
  · simpa [Formula.names] using h

lemma Term.mem_names_toFormula {t : Term} (h : a ∈ t.toFormula.names) :
    a = Formula.trueName ∨ ∃ l ∈ t.literals, l.atom = a := by
  have hpart : ∀ g ∈ t.literals.toList.map Literal.toFormula, a ∈ g.names →
      ∃ l ∈ t.literals, l.atom = a := by
    intro g hg ha
    obtain ⟨l, hl, rfl⟩ := List.mem_map.1 hg
    exact ⟨l, hl, (Literal.mem_names_toFormula ha).symm⟩
  rw [toFormula] at h
  split at h
  · simpa [Formula.truth, Formula.names] using Or.inl h
  · next f rest hcons =>
      rw [hcons] at hpart
      right
      rcases Formula.mem_names_foldl_join .and h with ha | ⟨g, hg, ha⟩
      · exact hpart f List.mem_cons_self ha
      · exact hpart g (List.mem_cons_of_mem f hg) ha

namespace Dnf

variable {d e : Dnf} {opts : SplitOptions} {naming : Naming}

/-- The formula of a normal form names what the normal form mentions, or is a constant. -/
lemma mem_names_toFormula (h : a ∈ d.toFormula.names) :
    a = Formula.trueName ∨ a = Formula.falseName ∨ d.Mentions a := by
  have hpart : ∀ g ∈ d.terms.toList.map Term.toFormula, a ∈ g.names →
      a = Formula.trueName ∨ d.Mentions a := by
    intro g hg ha
    obtain ⟨t, ht, rfl⟩ := List.mem_map.1 hg
    refine (Term.mem_names_toFormula ha).imp_right ?_
    rintro ⟨l, hl, rfl⟩
    exact mentions_of_mem ht hl
  rw [toFormula] at h
  split at h
  · right; left
    simpa [Formula.falsity, Formula.names] using h
  · next f rest hcons =>
      rw [hcons] at hpart
      have hname : a = Formula.trueName ∨ d.Mentions a := by
        rcases Formula.mem_names_foldl_join .or h with ha | ⟨g, hg, ha⟩
        · exact hpart f List.mem_cons_self ha
        · exact hpart g (List.mem_cons_of_mem f hg) ha
      exact hname.imp_right Or.inr

/-- Normalization mentions no new atom. -/
lemma mentions_of_normalize (h : (d.normalize opts naming).outcome = .ok e) (ha : e.Mentions a) :
    d.Mentions a := by
  rcases normalize_cases opts naming d with ⟨-, hnorm⟩ | ⟨e', events, hnorm, hrun⟩
  · rw [hnorm] at h
    cases h
    exact ha
  · rw [hnorm] at h
    cases h
    exact hrun.mentions ha

end Dnf

/-- **A normalized formula names atoms of the formula that it comes from, and constants.** -/
lemma Formula.mem_names_of_normalize {f g : Formula} {opts : SplitOptions} {naming : Naming}
    (h : (f.normalize opts naming).outcome = .ok g) (ha : a ∈ g.names) :
    a = trueName ∨ a = falseName ∨ a ∈ f.names := by
  obtain ⟨d, e, hd, he, rfl⟩ := outcome_normalize_eq_ok.1 h
  refine (Dnf.mem_names_toFormula ha).imp_right (Or.imp_right fun hmentions => ?_)
  exact Dnf.mem_names_of_mentions (Dnf.ofFormulaIn_eq_ok.1 hd)
    (Dnf.mentions_of_normalize he hmentions)

/-- A normalized formula is plain. -/
lemma Formula.isExpanded_of_normalize {f g : Formula} {opts : SplitOptions} {naming : Naming}
    (h : (f.normalize opts naming).outcome = .ok g) : g.isExpanded = true := by
  obtain ⟨d, e, hd, he, rfl⟩ := outcome_normalize_eq_ok.1 h
  have hwf := (Dnf.of_normalize_eq_ok (Dnf.WellFormed.ofFormula hd) he).1
  exact Dnf.isExpanded_of_ofSigned (Dnf.ofFormulaIn_eq_ok.1 (Dnf.ofFormula_toFormula hwf))

end GradedQuery
