import GradedQuery.Proofs.OverlapFree
import Mathlib

/-!
# The attributes that a split depends on

Which attributes are ordinal is declared for a whole collection of data, and a query mentions few of
them.  **Only those matter on which the normal form has two or more different literals**
(`normalize_congr_ordinal`): declaring another attribute ordinal, or no longer declaring it so,
changes neither the result nor the events.

Three things look at the declarations, and each of them agrees for two sets with the same members
among these attributes: the test for overlaps (`isOverlapFree_congr`), as two terms differ in at
most one literal on any other attribute; the set of overlapping attributes
(`overlappingAttributes_congr`); and through it the choice of the split literal.  A cofactor has no
literals but those of the normal form (`mem_literals_of_mem_cofactor`), so that the agreement is
handed down to every branch.
-/

namespace GradedQuery.Dnf

variable {d e : Dnf} {o l : Literal} {naming : Naming} {attr : String} {n k : Nat}
  {ordinal ordinal' : OrderedSet String} {events : List Event}

/-! ## Attributes with several literals -/

/-- Whether two different literals of a normal form are on an attribute. -/
def SeveralOn (naming : Naming) (attr : String) (d : Dnf) : Prop :=
  ∃ l ∈ d.literals, ∃ m ∈ d.literals, naming l.atom = attr ∧ naming m.atom = attr ∧ l ≠ m

lemma not_severalOn_iff :
    ¬ d.SeveralOn naming attr ↔ ∀ l ∈ d.literals, ∀ m ∈ d.literals,
      naming l.atom = attr → naming m.atom = attr → l = m := by
  simp only [SeveralOn, not_exists, not_and, not_not]

/-- Whether two sets have the same members among the attributes with several literals. -/
def SameOrdinals (naming : Naming) (ordinal ordinal' : OrderedSet String) (d : Dnf) : Prop :=
  ∀ attr, d.SeveralOn naming attr → (attr ∈ ordinal ↔ attr ∈ ordinal')

lemma SameOrdinals.symm (h : d.SameOrdinals naming ordinal ordinal') :
    d.SameOrdinals naming ordinal' ordinal :=
  fun attr hattr => (h attr hattr).symm

/-- What is agreed on for a normal form is agreed on for its cofactors, which have no other
literals. -/
lemma SameOrdinals.cofactor (h : d.SameOrdinals naming ordinal ordinal') (o : Literal) :
    (d.cofactor o).SameOrdinals naming ordinal ordinal' := by
  rintro attr ⟨l, hl, m, hm, hattr⟩
  have hld : l ∈ d.literals := (mem_literals_of_mem_cofactor hl).1
  have hmd : m ∈ d.literals := (mem_literals_of_mem_cofactor hm).1
  exact h attr ⟨l, hld, m, hmd, hattr⟩

/-! ## What looks at the declarations -/

/-- The overlapping attributes are the ordinal ones with several literals. -/
lemma overlappingAttributes_congr (h : d.SameOrdinals naming ordinal ordinal') (k : Nat) :
    d.overlappingAttributes ⟨ordinal', k⟩ naming = d.overlappingAttributes ⟨ordinal, k⟩ naming := by
  refine OrderedSet.ext_mem fun attr => ?_
  rw [mem_overlappingAttributes, mem_overlappingAttributes]
  exact and_congr_left fun hseveral => (h attr hseveral).symm

lemma isOverlapFree_of_sameOrdinals (h : d.SameOrdinals naming ordinal ordinal')
    (hfree : d.isOverlapFree ⟨ordinal, k⟩ naming = true) :
    d.isOverlapFree ⟨ordinal', k⟩ naming = true := by
  refine isOverlapFree_iff.2 fun t ht u hu hne => separated_iff.2 fun hexcl attr hattr => ?_
  by_cases hseveral : d.SeveralOn naming attr
  · have hordinal : attr ∈ ordinal := (h attr hseveral).2 hattr
    exact separated_iff.1 (isOverlapFree_iff.1 hfree t ht u hu hne) hexcl attr hordinal
  · exact differences_le_one_of_mem ht hu (not_severalOn_iff.1 hseveral)

lemma isOverlapFree_congr (h : d.SameOrdinals naming ordinal ordinal') (k : Nat) :
    d.isOverlapFree ⟨ordinal', k⟩ naming = d.isOverlapFree ⟨ordinal, k⟩ naming :=
  Bool.eq_iff_iff.2 ⟨isOverlapFree_of_sameOrdinals h.symm, isOverlapFree_of_sameOrdinals h⟩

/-! ## Runs -/

/-- **A run is one under both declarations.** -/
lemma Splits.congr_ordinal (h : d.SameOrdinals naming ordinal ordinal')
    (hrun : Splits ⟨ordinal, k⟩ naming n d e events) :
    Splits ⟨ordinal', k⟩ naming n d e events := by
  induction hrun with
  | flat hempty =>
      rw [← overlappingAttributes_congr h k] at hempty
      exact .flat hempty
  | exhausted hover =>
      rw [← overlappingAttributes_congr h k] at hover
      exact .exhausted hover
  | cases hover hl _ _ ihp ihq =>
      rw [← overlappingAttributes_congr h k] at hover hl
      exact .cases hover hl (ihp (h.cofactor _)) (ihq (h.cofactor _))

lemma normalize_congr (h : d.SameOrdinals naming ordinal ordinal') (k : Nat) :
    d.normalize ⟨ordinal', k⟩ naming = d.normalize ⟨ordinal, k⟩ naming := by
  have hsame := isOverlapFree_congr h k
  cases hfree : d.isOverlapFree ⟨ordinal, k⟩ naming with
  | true =>
      rw [hfree] at hsame
      rw [normalize_of_isOverlapFree hfree, normalize_of_isOverlapFree hsame]
  | false =>
      rw [hfree] at hsame
      obtain ⟨e, events, hsplit, hrun⟩ := splits_split ⟨ordinal, k⟩ naming k d
      rw [normalize_of_overlap hfree, normalize_of_overlap hsame]
      exact (hrun.congr_ordinal h).split_eq.trans hsplit.symm

/-- **Only the ordinal attributes with several literals matter.**  Under two sets of ordinal
attributes with the same members among these, normalization succeeds with the same normal form and
the same events; in particular, declaring an attribute ordinal that is never mentioned or mentioned
with a single literal changes nothing. -/
theorem normalize_congr_ordinal (d : Dnf) (naming : Naming) (k : Nat) :
    (∀ ordinal ordinal', d.SameOrdinals naming ordinal ordinal' →
      ∃ e, (d.normalize ⟨ordinal, k⟩ naming).outcome = .ok e ∧
        d.normalize ⟨ordinal', k⟩ naming = d.normalize ⟨ordinal, k⟩ naming) ∧
    ∀ ordinal attr, (∀ l ∈ d.literals, ∀ m ∈ d.literals,
        naming l.atom = attr → naming m.atom = attr → l = m) →
      d.normalize ⟨ordinal.insert attr, k⟩ naming = d.normalize ⟨ordinal, k⟩ naming := by
  constructor
  · intro ordinal ordinal' h
    rcases normalize_cases ⟨ordinal, k⟩ naming d with ⟨-, hnorm⟩ | ⟨e, events, hnorm, -⟩
    · exact ⟨d, by rw [hnorm], normalize_congr h k⟩
    · exact ⟨e, by rw [hnorm], normalize_congr h k⟩
  · intro ordinal attr hsingle
    refine normalize_congr (fun other hseveral => ?_) k
    have hne : other ≠ attr := by
      rintro rfl
      exact not_severalOn_iff.2 hsingle hseveral
    rw [OrderedSet.mem_insert, or_iff_right hne]

/-- Two atoms on one attribute, beside one that is alone on its own: whether the latter attribute is
ordinal makes no difference, nor whether one is that is not mentioned. -/
theorem normalize_congr_ordinal_alone :
    let d := ((ofLiteral (.positive "a")).or (ofLiteral (.positive "b"))).and
      (ofLiteral (.positive "c"))
    let naming : Naming := fun atom => if atom = "c" then "r" else "q"
    d.SameOrdinals naming (.singleton "q") (.ofList ["q", "r", "s"]) ∧
      ∀ k, ∃ e, (d.normalize ⟨.singleton "q", k⟩ naming).outcome = .ok e ∧
        d.normalize ⟨.ofList ["q", "r", "s"], k⟩ naming =
          d.normalize ⟨.singleton "q", k⟩ naming := by
  intro d naming
  have hliterals : d.literals = [.positive "a", .positive "c", .positive "b", .positive "c"] := by
    subst d
    cbv
  have honly : ∀ l ∈ d.literals, ∀ m ∈ d.literals,
      naming l.atom = naming m.atom → l ≠ m → naming l.atom = "q" := by
    rw [hliterals]
    decide
  have hsame : d.SameOrdinals naming (.singleton "q") (.ofList ["q", "r", "s"]) := by
    rintro attr ⟨l, hl, m, hm, hla, hma, hne⟩
    have hattr : attr = "q" := hla ▸ honly l hl m hm (hla.trans hma.symm) hne
    rw [hattr]
    exact iff_of_true (by decide) (by decide)
  exact ⟨hsame, fun k => (normalize_congr_ordinal d naming k).1 _ _ hsame⟩

end GradedQuery.Dnf
