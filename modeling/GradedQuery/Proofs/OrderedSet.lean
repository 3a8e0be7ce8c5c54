import GradedQuery.OrderedSet
import Mathlib.Data.List.Perm.Subperm

/-!
# Sizes of ordered sets

A strictly ascending list repeats nothing, so the size of an ordered set counts its members.  The
two facts that later arguments measure with are `OrderedSet.eq_of_subset_of_size_le` (a set inside
one that is no larger is that one), which makes absorption a matter of sizes, and
`OrderedSet.size_lt_of_subset` (a set that misses a member is smaller), which makes case splits
end.
-/

namespace GradedQuery.OrderedSet

open Std

variable {α : Type} [Ord α] {s t : OrderedSet α} {a : α}

/-- Members come once. -/
lemma nodup [TransOrd α] (s : OrderedSet α) : s.toList.Nodup := by
  refine s.ascending.imp fun {a b} hab => ?_
  rintro rfl
  have hgt := OrientedCmp.gt_of_lt hab
  rw [hab] at hgt
  exact absurd hgt (by decide)

lemma size_le_of_subset [TransOrd α] (h : ∀ x ∈ s, x ∈ t) : s.size ≤ t.size :=
  (s.nodup.subperm h).length_le

/-- A set inside one that is no larger is that one. -/
lemma eq_of_subset_of_size_le [TransOrd α] (h : ∀ x ∈ s, x ∈ t) (hsize : t.size ≤ s.size) :
    s = t := by
  have hperm := (s.nodup.subperm h).perm_of_length_le hsize
  exact ext_mem fun x => hperm.mem_iff

/-- A set that misses a member of the larger one is smaller. -/
lemma size_lt_of_subset [TransOrd α] (h : ∀ x ∈ s, x ∈ t) (ha : a ∈ t) (hna : a ∉ s) :
    s.size < t.size := by
  rcases Nat.lt_or_ge s.size t.size with hlt | hge
  · exact hlt
  · rw [eq_of_subset_of_size_le h hge] at hna
    exact absurd ha hna

lemma isEmpty_iff : s.isEmpty = true ↔ ∀ x, x ∉ s := by
  rw [isEmpty, List.isEmpty_iff, List.eq_nil_iff_forall_not_mem]
  exact Iff.rfl

/-- A set that is not empty has a member. -/
lemma exists_mem (h : s.isEmpty = false) : ∃ x, x ∈ s := by
  by_contra hnone
  rw [isEmpty_iff.2 fun x hx => hnone ⟨x, hx⟩] at h
  exact absurd h (by decide)

lemma forall_mem_singleton {p : α → Prop} : (∀ x ∈ singleton a, p x) ↔ p a :=
  ⟨fun h => h a (mem_singleton.2 rfl), fun h x hx => by rwa [mem_singleton.1 hx]⟩

/-- Two different members make the size at least two. -/
lemma two_le_size_iff [TransOrd α] [LawfulEqOrd α] :
    2 ≤ s.size ↔ ∃ x ∈ s, ∃ y ∈ s, x ≠ y := by
  constructor
  · intro h
    cases hs : s.toList with
    | nil => simp [size, hs] at h
    | cons x rest =>
        cases rest with
        | nil => simp [size, hs] at h
        | cons y rest =>
            have hnodup := s.nodup
            rw [hs] at hnodup
            refine ⟨x, ?_, y, ?_, ?_⟩
            · simp [mem_def, hs]
            · simp [mem_def, hs]
            · rintro rfl
              simp at hnodup
  · rintro ⟨x, hx, y, hy, hne⟩
    have hlt : (singleton x).size < s.size :=
      size_lt_of_subset (forall_mem_singleton.2 hx) hy fun hmem => hne (mem_singleton.1 hmem).symm
    exact hlt

end GradedQuery.OrderedSet
