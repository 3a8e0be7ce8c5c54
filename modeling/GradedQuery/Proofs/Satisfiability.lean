import GradedQuery.Proofs.CaseSplit

/-!
# Contradictions are recognised

A contradictory formula has no term: pairs of terms that exclude each other are dropped, and so are
false constants.  **What is left can hold.**  A well-formed term holds under the assignment that
makes exactly the atoms true that it asserts (`Term.model`), so a normal form with a term has an
assignment, and one without terms has none.  For two terms the test for complementary literals
decides in the same way whether they can hold together.

Since normalization keeps the meaning, `FALSE` comes out exactly for the contradictions, wherever
the depth limit cuts the splitting short.  Nothing of the kind holds for `TRUE`: a valid formula
may keep several terms.
-/

namespace GradedQuery

namespace Term

variable {t u : Term}

/-- The assignment that makes the asserted atoms true and all others false. -/
def model (t : Term) (name : String) : Bool := t.contains (.positive name)

/-- **A well-formed term holds in its own model.** -/
lemma WellFormed.holds_model (ht : t.WellFormed) : t.holds t.model = true := by
  rw [holds_iff]
  intro l hl
  obtain ⟨name, negated⟩ := l
  cases negated with
  | false =>
      have hpos : .positive name ∈ t.literals := hl
      simp [Literal.holds, model, contains, hpos]
  | true =>
      -- the atom of a denied literal is not asserted too
      have hpos : .positive name ∉ t.literals := ht.consistent _ hl
      simp [Literal.holds, model, contains, hpos]

/-- **Well-formed terms exclude each other exactly if no assignment makes both hold.** -/
lemma WellFormed.excludes_eq_false_iff (ht : t.WellFormed) (hu : u.WellFormed) :
    t.excludes u = false ↔ ∃ s, t.holds s = true ∧ u.holds s = true := by
  constructor
  · intro hexcl
    cases hw : t.conjoin? u with
    | none => simp [conjoin?_eq_none.1 hw] at hexcl
    | some w =>
        -- the model of the conjunction is one of both terms
        have hmodel := (ht.conjoin? hu hw).holds_model
        rw [holds_conjoin? hw, Bool.and_eq_true] at hmodel
        exact ⟨w.model, hmodel⟩
  · rintro ⟨s, hts, hus⟩
    by_contra hexcl
    have hnever := holds_of_excludes (s := s) (Bool.not_eq_false _ ▸ hexcl)
    simp [hts, hus] at hnever

end Term

namespace Dnf

variable {d : Dnf}

lemma isFalse_iff : d.isFalse = true ↔ d = falsity := by
  rw [isFalse, OrderedSet.isEmpty_iff]
  constructor
  · intro h
    exact ext_terms fun t => by simp [h t, falsity]
  · rintro rfl
    exact OrderedSet.not_mem_empty

/-- **A well-formed normal form is false exactly if nothing makes it hold.** -/
lemma WellFormed.isFalse_iff_forall_holds (hd : d.WellFormed) :
    d.isFalse = true ↔ ∀ s, d.holds s = false := by
  constructor
  · intro h s
    rw [isFalse_iff.1 h]
    rfl
  · intro h
    refine OrderedSet.isEmpty_iff.2 fun t ht => ?_
    have hholds : d.holds t.model = true := holds_iff.2 ⟨t, ht, (hd.terms t ht).holds_model⟩
    simp [h t.model] at hholds

/-- The formula of a well-formed normal form is the constant `FALSE` only if there is no term. -/
lemma WellFormed.toFormula_eq_falsity_iff (hd : d.WellFormed) :
    d.toFormula = .falsity ↔ d.isFalse = true := by
  constructor
  · intro h
    refine hd.isFalse_iff_forall_holds.2 fun s => ?_
    rw [← holds_toFormula s hd, h, Formula.falsity, Formula.holds, Formula.atomHolds_falseName]
  · intro h
    rw [isFalse_iff.1 h]
    rfl

end Dnf

namespace Formula

variable {f : Formula}

/-- **A plain formula is normalized to `FALSE` exactly if its normal form has no term, and that is
so exactly if no assignment makes it hold.** -/
theorem normalize_eq_falsity_iff (hf : f.isExpanded = true) (opts : SplitOptions)
    (naming : Naming) :
    ∃ d g, Dnf.ofFormula f = .ok d ∧ (f.normalize opts naming).outcome = .ok g ∧
      (g = .falsity ↔ d.isFalse = true) ∧ (d.isFalse = true ↔ ∀ s, f.holds s = false) := by
  obtain ⟨d, hd, hwf, hmeaning⟩ := Dnf.exists_ofFormula hf
  obtain ⟨e, he, hewf, hsame⟩ := Dnf.exists_normalize opts naming hwf
  refine ⟨d, e.toFormula, hd, outcome_normalize_eq_ok.2 ⟨d, e, hd, he, rfl⟩, ?_, ?_⟩
  · rw [hewf.toFormula_eq_falsity_iff, hewf.isFalse_iff_forall_holds,
      hwf.isFalse_iff_forall_holds]
    simp only [hsame]
  · rw [hwf.isFalse_iff_forall_holds]
    simp only [hmeaning]

/-- Two buckets of a price, asserted and denied, where no case may be split. -/
theorem normalize_eq_falsity_iff_unsplit :
    let f : Formula := .and (.or (.atom "price__low") (.atom "price__high"))
      (.not (.or (.atom "price__high") (.atom "price__low")))
    f.isExpanded = true ∧
      (f.normalize ⟨.singleton "price", 0⟩ defaultNaming).outcome = .ok .falsity := by
  intro f
  obtain ⟨d, g, -, hg, hgd, hds⟩ :=
    normalize_eq_falsity_iff (f := f) rfl ⟨.singleton "price", 0⟩ defaultNaming
  have hnone : ∀ s, f.holds s = false := by
    intro s
    cases hlow : atomHolds s "price__low" <;> simp [f, holds, hlow]
  rw [hgd.2 (hds.2 hnone)] at hg
  exact ⟨rfl, hg⟩

end Formula

end GradedQuery
