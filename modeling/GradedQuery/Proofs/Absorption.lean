import GradedQuery.Dnf
import GradedQuery.Proofs.Term

/-!
# Absorption keeps the minimal terms

`Dnf.ofTerms` visits the terms from small to large and keeps one unless a kept term is inside it.
**`Dnf.mem_ofTerms`** says what is left: exactly the terms of the list that no other term of it is
inside of.  Order and repetitions of the list play no part in that.

Three facts about the pass carry it: what is kept was there (`mem_of_mem_foldl_keep`), whatever was
there has a kept term inside (`exists_subset_foldl_keep`), and no kept term is inside another
(`antichain_foldl_keep`).  Only the last one needs the order of visit.
-/

namespace GradedQuery.Dnf

open Std

variable {t u k : Term} {kept ts : List Term}

/-! ## The order of visit -/

/-- The order of visit is the lexicographic one of size and term. -/
lemma visitedBefore_eq (t u : Term) :
    visitedBefore t u = (compareLex (compareOn Term.size) compare t u).isLE := by
  simp only [visitedBefore, compareLex, compareOn]
  cases compare t.size u.size <;> rfl

lemma visitedBefore_trans (t u w : Term) (h : visitedBefore t u = true)
    (h' : visitedBefore u w = true) : visitedBefore t w = true := by
  rw [visitedBefore_eq] at h h' ⊢
  exact TransCmp.isLE_trans h h'

lemma visitedBefore_total (t u : Term) : (visitedBefore t u || visitedBefore u t) = true := by
  have hswap : compareLex (compareOn Term.size) compare u t =
      (compareLex (compareOn Term.size) compare t u).swap := OrientedCmp.eq_swap
  rw [visitedBefore_eq, visitedBefore_eq, hswap]
  cases compareLex (compareOn Term.size) compare t u <;> rfl

lemma size_le_of_visitedBefore (h : visitedBefore t u = true) : t.size ≤ u.size := by
  simp only [visitedBefore] at h
  split at h
  · next hlt => exact Nat.le_of_lt (Nat.compare_eq_lt.1 hlt)
  · exact absurd h (by decide)
  · next heq => exact Nat.le_of_eq (Nat.compare_eq_eq.1 heq)

/-- The visited terms get no smaller. -/
lemma pairwise_size_le (ts : List Term) :
    (ts.mergeSort visitedBefore).Pairwise (·.size ≤ ·.size) :=
  (List.pairwise_mergeSort visitedBefore_trans visitedBefore_total ts).imp
    size_le_of_visitedBefore

/-! ## One pass -/

lemma mem_keep : k ∈ keep kept t ↔ k ∈ kept ∨ k = t ∧ ∀ m ∈ kept, ¬ m ⊆ t := by
  simp only [keep]
  by_cases hcovered : kept.any (·.subset t) = true
  · rw [if_pos hcovered]
    obtain ⟨m, hm, hmt⟩ := List.any_eq_true.1 hcovered
    constructor
    · exact Or.inl
    · rintro (hk | ⟨-, hnone⟩)
      · exact hk
      · exact absurd (Term.subset_iff.1 hmt) (hnone m hm)
  · rw [if_neg hcovered, List.mem_cons]
    have hnone : ∀ m ∈ kept, ¬ m ⊆ t := fun m hm hmt =>
      hcovered (List.any_eq_true.2 ⟨m, hm, Term.subset_iff.2 hmt⟩)
    constructor
    · rintro (rfl | hk)
      · exact Or.inr ⟨rfl, hnone⟩
      · exact Or.inl hk
    · rintro (hk | ⟨rfl, -⟩)
      · exact Or.inr hk
      · exact Or.inl rfl

lemma mem_of_mem_foldl_keep (h : k ∈ ts.foldl keep kept) : k ∈ kept ∨ k ∈ ts := by
  induction ts generalizing kept with
  | nil => exact Or.inl h
  | cons t ts ih =>
      rcases ih h with hk | hk
      · rcases mem_keep.1 hk with hk | ⟨rfl, -⟩
        · exact Or.inl hk
        · exact Or.inr List.mem_cons_self
      · exact Or.inr (List.mem_cons_of_mem t hk)

/-- Kept terms stay. -/
lemma mem_foldl_keep_of_mem (ts : List Term) (h : k ∈ kept) : k ∈ ts.foldl keep kept := by
  induction ts generalizing kept with
  | nil => exact h
  | cons t ts ih => exact ih (mem_keep.2 (Or.inl h))

/-- Whatever is visited has a kept term inside. -/
lemma exists_subset_foldl_keep (kept : List Term) (h : t ∈ ts) :
    ∃ k ∈ ts.foldl keep kept, k ⊆ t := by
  induction ts generalizing kept with
  | nil => exact absurd h List.not_mem_nil
  | cons u ts ih =>
      rw [List.foldl_cons]
      rcases List.mem_cons.1 h with rfl | h
      · by_cases hnone : ∀ m ∈ kept, ¬ m ⊆ t
        · exact ⟨t, mem_foldl_keep_of_mem ts (mem_keep.2 (Or.inr ⟨rfl, hnone⟩)), t.subset_refl⟩
        · obtain ⟨m, hm, hmt⟩ : ∃ m ∈ kept, m ⊆ t := by
            simpa only [not_forall, not_not, exists_prop] using hnone
          exact ⟨m, mem_foldl_keep_of_mem ts (mem_keep.2 (Or.inl hm)), hmt⟩
      · exact ih (keep kept u) h

/-- No kept term is inside another.  The invariant of the pass is that the kept terms are no
larger than the ones to come: a term can then be inside a kept one only by being equal to it. -/
lemma antichain_foldl_keep (hkept : ∀ k ∈ kept, ∀ m ∈ kept, k ⊆ m → k = m)
    (hsmall : ∀ k ∈ kept, ∀ t ∈ ts, k.size ≤ t.size) (hsorted : ts.Pairwise (·.size ≤ ·.size)) :
    ∀ k ∈ ts.foldl keep kept, ∀ m ∈ ts.foldl keep kept, k ⊆ m → k = m := by
  induction ts generalizing kept with
  | nil => exact hkept
  | cons t ts ih =>
      obtain ⟨ht, hts⟩ := List.pairwise_cons.1 hsorted
      refine ih ?_ ?_ hts
      · intro k hk m hm hkm
        rw [mem_keep] at hk hm
        rcases hk with hk | ⟨rfl, -⟩
        · rcases hm with hm | ⟨rfl, hnone⟩
          · exact hkept k hk m hm hkm
          · exact absurd hkm (hnone k hk)
        · rcases hm with hm | ⟨rfl, -⟩
          · exact Term.eq_of_subset_of_size_le hkm (hsmall m hm k List.mem_cons_self)
          · rfl
      · intro k hk u hu
        rcases mem_keep.1 hk with hk | ⟨rfl, -⟩
        · exact hsmall k hk u (List.mem_cons_of_mem t hu)
        · exact ht u hu

/-! ## The result -/

lemma mem_ofTerms_iff_mem_foldl :
    t ∈ (ofTerms ts).terms ↔ t ∈ (ts.mergeSort visitedBefore).foldl keep [] :=
  OrderedSet.mem_ofList

lemma mem_of_mem_ofTerms (h : t ∈ (ofTerms ts).terms) : t ∈ ts := by
  rcases mem_of_mem_foldl_keep (mem_ofTerms_iff_mem_foldl.1 h) with h | h
  · exact absurd h List.not_mem_nil
  · exact List.mem_mergeSort.1 h

/-- Every term of the list has a term of the result inside. -/
lemma exists_subset_ofTerms (h : t ∈ ts) : ∃ k ∈ (ofTerms ts).terms, k ⊆ t := by
  obtain ⟨k, hk, hkt⟩ := exists_subset_foldl_keep [] (List.mem_mergeSort.2 h)
  exact ⟨k, mem_ofTerms_iff_mem_foldl.2 hk, hkt⟩

/-- No term of the result is inside another. -/
lemma antichain_ofTerms (ts : List Term) :
    ∀ k ∈ (ofTerms ts).terms, ∀ m ∈ (ofTerms ts).terms, k ⊆ m → k = m := by
  intro k hk m hm
  rw [mem_ofTerms_iff_mem_foldl] at hk hm
  refine antichain_foldl_keep ?_ ?_ (pairwise_size_le ts) k hk m hm
  · intro k hk
    exact absurd hk List.not_mem_nil
  · intro k hk
    exact absurd hk List.not_mem_nil

/-- **Absorption keeps exactly the minimal terms of the list.** -/
lemma mem_ofTerms : t ∈ (ofTerms ts).terms ↔ t ∈ ts ∧ ∀ u ∈ ts, u ⊆ t → u = t := by
  constructor
  · intro h
    refine ⟨mem_of_mem_ofTerms h, fun u hu hut => ?_⟩
    obtain ⟨k, hk, hku⟩ := exists_subset_ofTerms hu
    have hkt : k = t := antichain_ofTerms ts k hk t h (Term.subset_trans hku hut)
    rw [hkt] at hku
    exact Term.eq_of_subset hut hku
  · rintro ⟨ht, hmin⟩
    obtain ⟨k, hk, hkt⟩ := exists_subset_ofTerms ht
    rwa [hmin k (mem_of_mem_ofTerms hk) hkt] at hk

/-- A list in which no term is inside another loses nothing. -/
lemma mem_ofTerms_of_antichain (h : ∀ t ∈ ts, ∀ u ∈ ts, t ⊆ u → t = u) :
    t ∈ (ofTerms ts).terms ↔ t ∈ ts := by
  rw [mem_ofTerms]
  constructor
  · exact And.left
  · exact fun ht => ⟨ht, fun u hu hut => h u hu t ht hut⟩

end GradedQuery.Dnf
