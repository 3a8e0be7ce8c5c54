import GradedQuery.Proofs.Absorption

/-!
# Normal forms: meaning and invariant

Absorption drops only terms that a kept one covers, so **`Dnf.ofTerms` means what its list means**
(`Dnf.holds_ofTerms`), and disjunction and conjunction of normal forms are those of their truth
values.  The value of a literal's normal form reads the constants (`Dnf.holds_ofLiteral`), although
terms look names up without doing so: a well-formed term never asks for a constant.

`Dnf.WellFormed` is the invariant of the normal forms that the library builds: the terms are
well-formed and none is inside another.
-/

namespace GradedQuery.Dnf

variable {d e : Dnf} {t u : Term} {l : Literal} {s : String → Bool}

/-! ## Members -/

lemma ext_terms (h : ∀ t, t ∈ d.terms ↔ t ∈ e.terms) : d = e := by
  cases d
  cases e
  congr
  exact OrderedSet.ext_mem h

lemma ofTerms_nil : ofTerms [] = falsity :=
  ext_terms fun t => ⟨fun ht => absurd (mem_of_mem_ofTerms ht) List.not_mem_nil,
    fun ht => absurd ht (OrderedSet.not_mem_empty t)⟩

lemma ofTerms_singleton (t : Term) : ofTerms [t] = ⟨.singleton t⟩ := by
  refine ext_terms fun u => ?_
  rw [mem_ofTerms, List.mem_singleton, OrderedSet.mem_singleton]
  constructor
  · exact And.left
  · rintro rfl
    exact ⟨rfl, fun w hw _ => List.mem_singleton.1 hw⟩

/-- The literals of a normal form are those of its terms. -/
@[simp] lemma mem_literals : l ∈ d.literals ↔ ∃ t ∈ d.terms, l ∈ t.literals := by
  simp only [literals, List.mem_flatMap]
  exact Iff.rfl

/-- The terms of a disjunction are terms of the parts. -/
lemma mem_or (h : t ∈ (d.or e).terms) : t ∈ d.terms ∨ t ∈ e.terms :=
  List.mem_append.1 (mem_of_mem_ofTerms h)

/-- The terms that a conjunction is made of. -/
lemma mem_products :
    t ∈ (d.terms.toList.flatMap fun u => e.terms.toList.filterMap u.conjoin?) ↔
      ∃ u ∈ d.terms, ∃ w ∈ e.terms, u.conjoin? w = some t := by
  simp only [List.mem_flatMap, List.mem_filterMap]
  exact Iff.rfl

/-- The terms of a conjunction join terms of the parts. -/
lemma mem_and (h : t ∈ (d.and e).terms) :
    ∃ u ∈ d.terms, ∃ w ∈ e.terms, u.conjoin? w = some t :=
  mem_products.1 (mem_of_mem_ofTerms h)

/-! ## Meaning -/

lemma holds_iff : d.holds s = true ↔ ∃ t ∈ d.terms, t.holds s = true := by
  simp only [holds, List.any_eq_true]
  exact Iff.rfl

/-- **Absorption keeps the meaning**: a dropped term is covered by a kept one. -/
lemma holds_ofTerms (s : String → Bool) (ts : List Term) :
    (ofTerms ts).holds s = ts.any (·.holds s) := by
  rw [Bool.eq_iff_iff, holds_iff, List.any_eq_true]
  constructor
  · rintro ⟨t, ht, hs⟩
    exact ⟨t, mem_of_mem_ofTerms ht, hs⟩
  · rintro ⟨t, ht, hs⟩
    obtain ⟨k, hk, hkt⟩ := exists_subset_ofTerms ht
    exact ⟨k, hk, Term.holds_of_subset hkt hs⟩

lemma holds_or (s : String → Bool) (d e : Dnf) : (d.or e).holds s = (d.holds s || e.holds s) := by
  rw [or, holds_ofTerms, List.any_append]
  rfl

/-- A pair of terms that exclude each other adds nothing, since the two never hold together. -/
lemma holds_and (s : String → Bool) (d e : Dnf) :
    (d.and e).holds s = (d.holds s && e.holds s) := by
  rw [Bool.eq_iff_iff, Bool.and_eq_true, and, holds_ofTerms, List.any_eq_true, holds_iff,
    holds_iff]
  constructor
  · rintro ⟨w, hw, hs⟩
    obtain ⟨t, ht, u, hu, htu⟩ := mem_products.1 hw
    rw [Term.holds_conjoin? htu, Bool.and_eq_true] at hs
    exact ⟨⟨t, ht, hs.1⟩, ⟨u, hu, hs.2⟩⟩
  · rintro ⟨⟨t, ht, hts⟩, ⟨u, hu, hus⟩⟩
    have hboth : (t.holds s && u.holds s) = true := by rw [hts, hus]; rfl
    cases htu : t.conjoin? u with
    | none =>
        rw [Term.holds_of_excludes (Term.conjoin?_eq_none.1 htu)] at hboth
        exact absurd hboth (by decide)
    | some w =>
        refine ⟨w, mem_products.2 ⟨t, ht, u, hu, htu⟩, ?_⟩
        rw [Term.holds_conjoin? htu]
        exact hboth

/-- The normal form of a literal has its value, the constants standing for themselves. -/
lemma holds_ofLiteral (s : String → Bool) (l : Literal) :
    (ofLiteral l).holds s = (Formula.atomHolds s l.atom != l.negated) := by
  have hne : Formula.falseName ≠ Formula.trueName := by decide
  rw [ofLiteral, holds_ofTerms]
  by_cases htrue : l.atom = Formula.trueName
  · cases hneg : l.negated with
    | false => simp [Term.ofLiteral?, Formula.atomHolds, htrue, hneg, Term.holds_iff]
    | true => simp [Term.ofLiteral?, Formula.atomHolds, htrue, hneg]
  · by_cases hfalse : l.atom = Formula.falseName
    · cases hneg : l.negated with
      | false => simp [Term.ofLiteral?, Formula.atomHolds, hfalse, hne, hneg]
      | true => simp [Term.ofLiteral?, Formula.atomHolds, hfalse, hne, hneg, Term.holds_iff]
    · simp only [Term.ofLiteral?, Formula.atomHolds, if_neg htrue, if_neg hfalse]
      simp [Term.holds, OrderedSet.singleton, Literal.holds]

/-! ## The invariant -/

/-- The terms are well-formed, and none is inside another. -/
structure WellFormed (d : Dnf) : Prop where
  terms : ∀ t ∈ d.terms, t.WellFormed
  antichain : ∀ t ∈ d.terms, ∀ u ∈ d.terms, t ⊆ u → t = u

namespace WellFormed

lemma ofTerms {ts : List Term} (h : ∀ t ∈ ts, t.WellFormed) : (ofTerms ts).WellFormed where
  terms t ht := h t (mem_of_mem_ofTerms ht)
  antichain := antichain_ofTerms ts

lemma falsity : falsity.WellFormed where
  terms t ht := absurd ht (OrderedSet.not_mem_empty t)
  antichain t ht := absurd ht (OrderedSet.not_mem_empty t)

lemma truth : truth.WellFormed where
  terms t ht := by
    rw [OrderedSet.mem_singleton.1 ht]
    exact Term.WellFormed.empty
  antichain t ht u hu _ := by
    rw [OrderedSet.mem_singleton.1 ht, OrderedSet.mem_singleton.1 hu]

lemma ofLiteral (l : Literal) : (ofLiteral l).WellFormed :=
  ofTerms fun _ ht => Term.WellFormed.ofLiteral? (Option.mem_toList.1 ht)

lemma or (hd : d.WellFormed) (he : e.WellFormed) : (d.or e).WellFormed := by
  refine ofTerms fun t ht => ?_
  rcases List.mem_append.1 ht with ht | ht
  · exact hd.terms t ht
  · exact he.terms t ht

lemma and (hd : d.WellFormed) (he : e.WellFormed) : (d.and e).WellFormed := by
  refine ofTerms fun t ht => ?_
  obtain ⟨u, hu, w, hw, huw⟩ := mem_products.1 ht
  exact (hd.terms u hu).conjoin? (he.terms w hw) huw

/-- No literal of a well-formed normal form speaks about a constant. -/
lemma noConstant (hd : d.WellFormed) (hl : l ∈ d.literals) :
    l.atom ≠ Formula.trueName ∧ l.atom ≠ Formula.falseName := by
  obtain ⟨t, ht, hlt⟩ := mem_literals.1 hl
  exact (hd.terms t ht).noConstant l hlt

end WellFormed

end GradedQuery.Dnf
