import GradedQuery.Proofs.Built
import Mathlib

/-!
# The two cofactors of a split

A split on an atom takes a normal form apart into two branches and puts them together again under
the atom and its negation.

* A cofactor asks nothing about the split atom, and **it means what the normal form means with the
  atom set** (`holds_cofactor_update`).
* A recombination loses no term: terms that differ still differ when the literal of their branch is
  added, and a term of one branch is never one of the other.  So **it has as many terms as the
  branches together** (`size_recombine`).

Both hold of each split that the normalizer makes (`recombine_cofactors`).
-/

namespace GradedQuery

open Function

/-- Terms without a literal are told apart also with it. -/
lemma Term.eq_of_adjoin_eq {t u : Term} {o : Literal} (ht : o ∉ t.literals) (hu : o ∉ u.literals)
    (h : t.adjoin o = u.adjoin o) : t = u := by
  have hsub : t.adjoin o ⊆ u.adjoin o := h ▸ Term.subset_refl _
  have hsup : u.adjoin o ⊆ t.adjoin o := h ▸ Term.subset_refl _
  exact Term.eq_of_subset ((adjoin_subset_adjoin ht).1 hsub) ((adjoin_subset_adjoin hu).1 hsup)

namespace Dnf

variable {d p q : Dnf} {t : Term} {l o : Literal} {s s' : String → Bool}

/-! ## Meaning -/

/-- The value of a normal form depends on the atoms that it mentions. -/
lemma holds_congr_mentions (h : ∀ a, d.Mentions a → s a = s' a) : d.holds s = d.holds s' := by
  have hterm (t : Term) (ht : t ∈ d.terms) : t.holds s = true ↔ t.holds s' = true := by
    simp only [Term.holds_iff]
    refine forall₂_congr fun l hl => ?_
    rw [Literal.holds, Literal.holds, h l.atom (mentions_of_mem ht hl)]
  rw [Bool.eq_iff_iff, holds_iff, holds_iff]
  exact exists_congr fun t => and_congr_right (hterm t)

/-- **A cofactor means what the normal form means with the atom set** so that the literal holds. -/
lemma holds_cofactor_update (d : Dnf) (o : Literal) (s : String → Bool) :
    (d.cofactor o).holds s = d.holds (update s o.atom (!o.negated)) := by
  have ho : o.holds (update s o.atom (!o.negated)) = true := by
    rw [Literal.holds, update_self]
    cases o.negated <;> rfl
  rw [← holds_cofactor d ho]
  refine holds_congr_mentions fun a ha => ?_
  rw [update_of_ne (mentions_of_mentions_cofactor ha).2]

/-! ## Number of terms -/

/-- **A recombination has as many terms as its branches together.** -/
lemma size_recombine (ho : o.atom ≠ Formula.trueName ∧ o.atom ≠ Formula.falseName)
    (hp : p.WellFormed) (hop : ¬ p.Mentions o.atom) (hq : q.WellFormed)
    (hoq : ¬ q.Mentions o.atom) : (recombine o p q).size = p.size + q.size := by
  -- neither branch has a literal on the atom, whatever its polarity
  have hbranch {e : Dnf} {m : Literal} (he : ¬ e.Mentions m.atom) :
      (e.terms.toList.map (·.adjoin m)).Nodup :=
    e.terms.nodup.map_on fun t ht u hu => Term.eq_of_adjoin_eq
      (not_mem_of_not_mentions he ht) (not_mem_of_not_mentions he hu)
  have hdisjoint : (p.terms.toList.map (·.adjoin o)).Disjoint
      (q.terms.toList.map (·.adjoin o.complement)) := by
    intro w hpos hneg
    obtain ⟨t, -, rfl⟩ := List.mem_map.1 hpos
    obtain ⟨u, hu, heq⟩ := List.mem_map.1 hneg
    have hmem : o ∈ (u.adjoin o.complement).literals :=
      heq ▸ Term.mem_adjoin.2 (Or.inl rfl)
    rcases Term.mem_adjoin.1 hmem with hoo | hou
    · exact Literal.complement_ne o hoo.symm
    · exact not_mem_of_not_mentions hoq hu hou
  have hnodup := List.nodup_append'.2 ⟨hbranch hop, hbranch (m := o.complement) hoq, hdisjoint⟩
  have hperm := (List.perm_ext_iff_of_nodup (recombine o p q).terms.nodup hnodup).2 fun t => by
    rw [List.mem_append, List.mem_map, List.mem_map]
    simp only [@eq_comm _ _ t]
    exact mem_recombine ho hp hop hq hoq
  have hlength := hperm.length_eq
  rwa [List.length_append, List.length_map, List.length_map] at hlength

/-! ## Splits -/

/-- **The branches of a split are the two cofactors.**  Neither speaks about the split atom; one
means what the normal form means with the atom true, the other one with the atom false.  Put
together again they mean the same as the normal form, and no term is lost. -/
theorem recombine_cofactors (hd : d.Built) (hl : l ∈ d.literals) :
    (∀ m ∈ (d.cofactor l.positiveForm).literals, m.atom ≠ l.atom) ∧
      (∀ m ∈ (d.cofactor l.positiveForm.complement).literals, m.atom ≠ l.atom) ∧
      (∀ s, (d.cofactor l.positiveForm).holds s = d.holds (update s l.atom true)) ∧
      (∀ s, (d.cofactor l.positiveForm.complement).holds s = d.holds (update s l.atom false)) ∧
      (∀ s, (recombine l.positiveForm (d.cofactor l.positiveForm)
        (d.cofactor l.positiveForm.complement)).holds s = d.holds s) ∧
      (recombine l.positiveForm (d.cofactor l.positiveForm)
        (d.cofactor l.positiveForm.complement)).size =
        (d.cofactor l.positiveForm).size + (d.cofactor l.positiveForm.complement).size := by
  have hconstant := hd.wellFormed.noConstant hl
  have hnot (o : Literal) : ¬ (d.cofactor o).Mentions o.atom :=
    fun h => (mentions_of_mentions_cofactor h).2 rfl
  refine ⟨fun m hm => (mem_literals_of_mem_cofactor hm).2,
    fun m hm => (mem_literals_of_mem_cofactor hm).2, holds_cofactor_update d _,
    holds_cofactor_update d _, fun s => holds_recombine_cofactors hconstant rfl rfl, ?_⟩
  exact size_recombine hconstant (hd.wellFormed.cofactor _) (hnot _) (hd.wellFormed.cofactor _)
    (hnot _)

/-- A term without the split atom belongs to both branches, and so counts twice. -/
theorem recombine_cofactors_shared :
    let d := (((ofLiteral (.positive "a")).and (ofLiteral (.positive "b"))).or
      ((ofLiteral (.negative "a")).and (ofLiteral (.positive "c")))).or (ofLiteral (.negative "d"))
    d.Built ∧ Literal.negative "a" ∈ d.literals ∧
      (recombine (.positive "a") (d.cofactor (.positive "a"))
        (d.cofactor (.negative "a"))).size = 4 := by
  intro d
  have hd : d.Built := .or (.or (.and (.ofLiteral _) (.ofLiteral _))
    (.and (.ofLiteral _) (.ofLiteral _))) (.ofLiteral _)
  have hl : Literal.negative "a" ∈ d.literals := by
    subst d
    apply of_decide_eq_true
    cbv
  have hsizes : (d.cofactor (.positive "a")).size + (d.cofactor (.negative "a")).size = 4 := by
    subst d
    cbv
  exact ⟨hd, hl, (recombine_cofactors hd hl).2.2.2.2.2.trans hsizes⟩

end Dnf

end GradedQuery
