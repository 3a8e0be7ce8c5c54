import GradedQuery.Proofs.Built
import GradedQuery.Proofs.Satisfiability
import Mathlib

/-!
# What the order of terms means

Terms are compared by their literals; no assignment is ever tried.  For the terms that the library
builds the literals decide all the same what holds under which assignments.

* **Inclusion is entailment** (`Term.WellFormed.subset_iff_forall_holds`).  A literal that `u` does
  not have need not hold where `u` does: its complement and `u` do not exclude each other, and so
  they have a common model.  This is where constants and complementary pairs would do harm, a
  contradictory term entailing every other one.
* Exclusion and a missing conjunction both say that two terms never hold together
  (`Term.operations_iff_holds`), although each of them looks at one direction only.

Absorption goes by the same order.  Its pass compares a term with the terms kept so far and with no
later one, yet **what is left depends on the members of the list alone**
(`Dnf.mem_ofTerms_iff_minimal`).
-/

namespace GradedQuery

/-! ## Terms and assignments -/

namespace Term

variable {t u : Term} {l : Literal}

/-- A well-formed term has every literal that holds wherever the term does. -/
lemma WellFormed.mem_of_forall_holds (hu : u.WellFormed) (htrue : l.atom ≠ Formula.trueName)
    (hfalse : l.atom ≠ Formula.falseName) (h : ∀ s, u.holds s = true → l.holds s = true) :
    l ∈ u.literals := by
  by_contra hl
  -- nothing in `u` speaks against the complement of `l`, so that the two can hold together
  have hopen : (⟨.singleton l.complement⟩ : Term).excludes u = false := by
    rwa [← Bool.not_eq_true, singleton_excludes, Literal.complement_complement]
  have hwf : (⟨.singleton l.complement⟩ : Term).WellFormed := .singleton htrue hfalse
  obtain ⟨s, hcompl, hus⟩ := (hwf.excludes_eq_false_iff hu).1 hopen
  have hholds := holds_iff.1 hcompl l.complement (OrderedSet.mem_singleton.2 rfl)
  rw [Literal.holds_complement, h s hus] at hholds
  exact absurd hholds (by decide)

/-- **One well-formed term is inside another exactly if it holds wherever the other one does.** -/
lemma WellFormed.subset_iff_forall_holds (ht : t.WellFormed) (hu : u.WellFormed) :
    t ⊆ u ↔ ∀ s, u.holds s = true → t.holds s = true := by
  constructor
  · intro h s
    exact holds_of_subset h
  · intro h l hl
    obtain ⟨htrue, hfalse⟩ := ht.noConstant l hl
    exact hu.mem_of_forall_holds htrue hfalse fun s hs => holds_iff.1 (h s hs) l hl

/-- **The operations on terms decide what they mean.**  Two terms have no conjunction if and only if
they exclude each other, and if and only if no assignment makes both hold; a conjunction holds
exactly where both do; and one term is inside another if and only if it holds wherever the other one
does. -/
theorem operations_iff_holds (ht : t.Built) (hu : u.Built) :
    (t.conjoin? u = none ↔ t.excludes u = true) ∧
      (t.excludes u = true ↔ ¬ ∃ s, t.holds s = true ∧ u.holds s = true) ∧
      (∀ w, t.conjoin? u = some w →
        ∀ s, w.holds s = true ↔ t.holds s = true ∧ u.holds s = true) ∧
      (t.subset u = true ↔ ∀ s, u.holds s = true → t.holds s = true) := by
  have htwf := ht.wellFormed
  have huwf := hu.wellFormed
  refine ⟨conjoin?_eq_none, ?_, fun w hw s => ?_, ?_⟩
  · rw [← htwf.excludes_eq_false_iff huwf, Bool.not_eq_false]
  · rw [holds_conjoin? hw, Bool.and_eq_true]
  · rw [subset_iff, htwf.subset_iff_forall_holds huwf]

/-- `{!b, c}` and `{a, !b}` have a conjunction, and neither is inside the other; `{!a, c}` excludes
`{a, !b}`. -/
theorem operations_iff_holds_chain :
    let t : Term := ⟨.ofList [.negative "b", .positive "c"]⟩
    let u : Term := ⟨.ofList [.positive "a", .negative "b"]⟩
    let v : Term := ⟨.ofList [.negative "a", .positive "c"]⟩
    t.Built ∧ u.Built ∧ v.Built ∧
      v.conjoin? u = none ∧ (¬ ∃ s, v.holds s = true ∧ u.holds s = true) ∧
      (∃ w, t.conjoin? u = some w ∧
        ∀ s, w.holds s = true ↔ t.holds s = true ∧ u.holds s = true) ∧
      ¬ ∀ s, u.holds s = true → t.holds s = true := by
  intro t u v
  have ht : t.Built := .ofLiterals (show ofLiterals? [.positive "c", .negative "b"] = some t by cbv)
  have hu : u.Built := .ofLiterals (show ofLiterals? [.negative "b", .positive "a"] = some u by cbv)
  have hv : v.Built := .ofLiterals (show ofLiterals? [.positive "c", .negative "a"] = some v by cbv)
  have hvu : v.excludes u = true := by cbv
  have htu : t.excludes u = false := by cbv
  have hsubset : t.subset u = false := by cbv
  obtain ⟨hnone, hapart, -, -⟩ := operations_iff_holds hv hu
  obtain ⟨hexists, -, hholds, hinside⟩ := operations_iff_holds ht hu
  rw [htu, Bool.false_eq_true, iff_false] at hexists
  obtain ⟨w, hw⟩ := Option.ne_none_iff_exists'.1 hexists
  rw [hsubset, Bool.false_eq_true, false_iff] at hinside
  exact ⟨ht, hu, hv, hnone.2 hvu, hapart.1 hvu, ⟨w, hw, hholds w hw⟩, hinside⟩

end Term

/-! ## Absorption -/

namespace Dnf

/-- **Absorption keeps exactly the minimal terms**, those that no other term of the list is inside
of.  So neither the order of the list nor a repetition in it matters, and the result holds exactly
where some term of the list does. -/
theorem mem_ofTerms_iff_minimal (ts : List Term) :
    (∀ t, t ∈ (ofTerms ts).terms ↔ t ∈ ts ∧ ∀ u ∈ ts, u ≠ t → u.subset t = false) ∧
      (∀ us : List Term, (∀ t, t ∈ us ↔ t ∈ ts) → ofTerms us = ofTerms ts) ∧
      ∀ s, (ofTerms ts).holds s = true ↔ ∃ t ∈ ts, t.holds s = true := by
  refine ⟨fun t => ?_, fun us hsame => ?_, fun s => ?_⟩
  · rw [mem_ofTerms]
    refine and_congr_right fun _ => forall₂_congr fun u _ => ?_
    rw [← Bool.not_eq_true, Term.subset_iff]
    exact not_imp_not.symm
  · refine ext_terms fun t => ?_
    simp only [mem_ofTerms, hsame]
  · rw [holds_ofTerms, List.any_eq_true]

/-- Five terms in an unfavourable order, one of them repeated and two of them covered. -/
theorem mem_ofTerms_iff_minimal_shuffled :
    let a : Term := ⟨.ofList [.positive "a"]⟩
    let ab : Term := ⟨.ofList [.positive "a", .negative "b"]⟩
    let bc : Term := ⟨.ofList [.negative "b", .positive "c"]⟩
    let abc : Term := ⟨.ofList [.positive "a", .negative "b", .positive "c"]⟩
    (∀ t, t ∈ [abc, bc, ab, bc, a] ↔ t ∈ [a, ab, bc, abc]) ∧
      ofTerms [abc, bc, ab, bc, a] = ofTerms [a, ab, bc, abc] ∧
      bc ∈ (ofTerms [a, ab, bc, abc]).terms ∧ abc ∉ (ofTerms [a, ab, bc, abc]).terms := by
  intro a ab bc abc
  have hsame : ∀ t, t ∈ [abc, bc, ab, bc, a] ↔ t ∈ [a, ab, bc, abc] := by
    intro t
    simp only [List.mem_cons, List.not_mem_nil, or_false]
    tauto
  obtain ⟨hmem, hresult, -⟩ := mem_ofTerms_iff_minimal [a, ab, bc, abc]
  refine ⟨hsame, hresult _ hsame, (hmem bc).2 ⟨by simp, ?_⟩, fun h => ?_⟩
  · intro u hu hne
    simp only [List.mem_cons, List.not_mem_nil, or_false] at hu
    rcases hu with rfl | rfl | rfl | rfl
    · cbv
    · cbv
    · exact absurd rfl hne
    · cbv
  · have hcovered := ((hmem abc).1 h).2 bc (by simp) (by decide)
    rw [show bc.subset abc = true by cbv] at hcovered
    cases hcovered

end Dnf

end GradedQuery
