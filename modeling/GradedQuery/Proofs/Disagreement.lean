import GradedQuery.Proofs.OverlapFree
import GradedQuery.Proofs.Satisfiability
import Mathlib

/-!
# What being overlap-free means

The test that decides whether a normal form is overlap-free never looks at assignments.  It passes
over two terms if one has the complement of a literal of the other, and otherwise counts literals.
Both steps have a meaning.  For well-formed terms **a complementary pair of literals is the only
reason not to hold together** (`Term.WellFormed.excludes_eq_false_iff`), since the conjunction of
terms without such a pair is a well-formed term and has a model.  And a count of at most one says
that no two different literals belong to exactly one of the terms (`differences_le_one_iff`).
-/

namespace GradedQuery.Dnf

variable {d : Dnf}

/-- **A normal form is overlap-free exactly if no two of its terms that some assignment makes hold
together disagree on an ordinal attribute**, that is, if for each of these attributes at most one
literal belongs to exactly one of them. -/
theorem isOverlapFree_iff_agree (hd : d.Built) (opts : SplitOptions) (naming : Naming) :
    d.isOverlapFree opts naming = true ↔
      ∀ t ∈ d.terms, ∀ u ∈ d.terms, t ≠ u → (∃ s, t.holds s = true ∧ u.holds s = true) →
        ∀ attr ∈ opts.ordinal, ∀ l m,
          InOne naming attr t u l → InOne naming attr t u m → l = m := by
  rw [isOverlapFree_iff]
  refine forall₂_congr fun t ht => forall₂_congr fun u hu => forall_congr' fun _ => ?_
  have htwf := hd.wellFormed.terms t ht
  have huwf := hd.wellFormed.terms u hu
  rw [separated_iff, htwf.excludes_eq_false_iff huwf]
  simp only [differences_le_one_iff]

/-- All atoms are on one attribute.  Two terms can hold together, and each of them has a literal
that the other one does not have. -/
theorem isOverlapFree_iff_agree_pair :
    let opts : SplitOptions := { ordinal := .singleton "q" }
    let d := ((ofLiteral (.positive "a")).and (ofLiteral (.negative "b"))).or
      ((ofLiteral (.positive "a")).and (ofLiteral (.positive "c")))
    d.Built ∧ ∃ t ∈ d.terms, ∃ u ∈ d.terms, t ≠ u ∧
      (∃ s, t.holds s = true ∧ u.holds s = true) ∧ ∃ attr ∈ opts.ordinal, ∃ l m,
        InOne (fun _ => "q") attr t u l ∧ InOne (fun _ => "q") attr t u m ∧ l ≠ m := by
  intro opts d
  have hd : d.Built :=
    .or (.and (.ofLiteral _) (.ofLiteral _)) (.and (.ofLiteral _) (.ofLiteral _))
  have hover : d.isOverlapFree opts (fun _ => "q") = false := by
    subst d opts
    cbv
  rw [← Bool.not_eq_true, isOverlapFree_iff_agree hd] at hover
  push Not at hover
  exact ⟨hd, hover⟩

end GradedQuery.Dnf
