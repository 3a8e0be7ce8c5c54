import GradedQuery.Formula
import Mathlib.Data.Finset.Disjoint
import Mathlib.Data.Finset.Lattice.Lemmas
import Mathlib.Tactic.Lemma

/-!
# What an assignment decides

The constants have their values, so an assignment decides the other names in a formula only, the
*open* ones.  **A plain formula has one value under all assignments that agree on its open atoms**
(`holds_congr_openAtoms`), so that finitely many assignments, those to the open atoms, say all
about it.

In a formula that is *read once* no open atom stands in two places.  Its parts then have no open
atom in common (`readOnce_join`): what is said about one part is independent of what is said about
the other one.
-/

namespace GradedQuery.Formula

variable {f l r : Formula} {a : String}

/-- The names in a formula but for the constants, from left to right. -/
def openNames (f : Formula) : List String :=
  f.names.filter fun a => a ≠ trueName ∧ a ≠ falseName

/-- The set of the names that an assignment to a plain formula decides. -/
def openAtoms (f : Formula) : Finset String := f.openNames.toFinset

/-- Whether no atom but the constants stands in two places. -/
def ReadOnce (f : Formula) : Prop := f.openNames.Nodup

instance (f : Formula) : Decidable f.ReadOnce := inferInstanceAs (Decidable f.openNames.Nodup)

@[simp] lemma mem_openNames :
    a ∈ f.openNames ↔ a ∈ f.names ∧ a ≠ trueName ∧ a ≠ falseName := by
  rw [openNames, List.mem_filter, decide_eq_true_eq]

@[simp] lemma mem_openAtoms :
    a ∈ f.openAtoms ↔ a ∈ f.names ∧ a ≠ trueName ∧ a ≠ falseName := by
  rw [openAtoms, List.mem_toFinset, mem_openNames]

lemma openNames_join (c : Connective) (l r : Formula) :
    (c.join l r).openNames = l.openNames ++ r.openNames := by
  rw [openNames, names_join, List.filter_append]
  rfl

lemma openAtoms_join (c : Connective) (l r : Formula) :
    (c.join l r).openAtoms = l.openAtoms ∪ r.openAtoms := by
  rw [openAtoms, openNames_join, List.toFinset_append]
  rfl

/-- A formula with two parts is read once if the parts are and have no open atom in common. -/
lemma readOnce_join (c : Connective) :
    (c.join l r).ReadOnce ↔ l.ReadOnce ∧ r.ReadOnce ∧ Disjoint l.openAtoms r.openAtoms := by
  rw [ReadOnce, openNames_join, List.nodup_append', openAtoms, openAtoms,
    List.disjoint_toFinset_iff_disjoint]
  rfl

/-- **The value of a plain formula depends on its open atoms only.** -/
lemma holds_congr_openAtoms {s s' : String → Bool} (hf : f.isExpanded = true)
    (h : ∀ a ∈ f.openAtoms, s a = s' a) : f.holds s = f.holds s' := by
  induction f with
  | atom name =>
      rw [holds, holds, atomHolds, atomHolds]
      split_ifs with htrue hfalse
      · rfl
      · rfl
      · exact h name (mem_openAtoms.2 ⟨List.mem_singleton.2 rfl, htrue, hfalse⟩)
  | not f ih => rw [holds, holds, ih hf h]
  | and l r ihl ihr =>
      rw [isExpanded, Bool.and_eq_true] at hf
      have hparts := Finset.forall_mem_union.1 (openAtoms_join .and l r ▸ h)
      rw [holds, holds, ihl hf.1 hparts.1, ihr hf.2 hparts.2]
  | or l r ihl ihr =>
      rw [isExpanded, Bool.and_eq_true] at hf
      have hparts := Finset.forall_mem_union.1 (openAtoms_join .or l r ▸ h)
      rw [holds, holds, ihl hf.1 hparts.1, ihr hf.2 hparts.2]
  | weightedAnd θ₁ θ₂ l r => exact absurd hf Bool.false_ne_true
  | weightedOr θ₁ θ₂ l r => exact absurd hf Bool.false_ne_true

end GradedQuery.Formula
