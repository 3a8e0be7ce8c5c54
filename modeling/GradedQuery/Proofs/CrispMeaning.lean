import GradedQuery.Proofs.CaseSplit

/-!
# Normalization keeps the crisp meaning

A plain formula goes through two passes, the conversion to a normal form and the splitting of
cases, and comes back as a formula.  **Every pass keeps the truth value under every assignment**,
whatever is ordinal and wherever the depth limit cuts the splitting short, and none of them fails.
-/

namespace GradedQuery.Formula

variable {f : Formula}

/-- **The normal form and the normalized formula of a plain formula mean what it means.** -/
theorem holds_normalize (hf : f.isExpanded = true) (opts : SplitOptions) (naming : Naming) :
    (∃ d, Dnf.ofFormula f = .ok d ∧ ∀ s, d.holds s = f.holds s) ∧
      ∃ g, (f.normalize opts naming).outcome = .ok g ∧ ∀ s, g.holds s = f.holds s := by
  obtain ⟨d, hsigned⟩ := Dnf.exists_ofSigned hf false
  have hd : Dnf.ofFormula f = .ok d := Dnf.ofFormulaIn_eq_ok.2 hsigned
  have hwf : d.WellFormed := Dnf.WellFormed.ofFormula hd
  have hmeaning : ∀ s, d.holds s = f.holds s := fun s => by
    rw [Dnf.holds_ofSigned s hsigned, Bool.bne_false]
  obtain ⟨e, he, hewf, hsame⟩ := Dnf.exists_normalize opts naming hwf
  refine ⟨⟨d, hd, hmeaning⟩, e.toFormula, outcome_normalize_eq_ok.2 ⟨d, e, hd, he, rfl⟩, ?_⟩
  intro s
  rw [Dnf.holds_toFormula s hewf, hsame s, hmeaning s]

/-- Three buckets of a price with a constant, where no case may be split. -/
theorem holds_normalize_unsplit :
    (∃ d, Dnf.ofFormula (.or (.and (.atom "price__low") (.not (.atom "price__mid")))
        (.and (.atom "price__high") .truth)) = .ok d ∧
      ∀ s, d.holds s = ((s "price__low" && !s "price__mid") || s "price__high")) ∧
    ∃ g, (normalize ⟨.singleton "price", 0⟩ defaultNaming
        (.or (.and (.atom "price__low") (.not (.atom "price__mid")))
          (.and (.atom "price__high") .truth))).outcome = .ok g ∧
      ∀ s, g.holds s = ((s "price__low" && !s "price__mid") || s "price__high") := by
  have h := holds_normalize
    (f := .or (.and (.atom "price__low") (.not (.atom "price__mid")))
      (.and (.atom "price__high") .truth)) rfl ⟨.singleton "price", 0⟩ defaultNaming
  simpa [holds, atomHolds, truth, trueName, falseName] using h

end GradedQuery.Formula
