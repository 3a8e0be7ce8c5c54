import GradedQuery.CommandLine.Run
import Mathlib

/-!
# Expansion of the weighted connectives and their truth tables

A weighted connective has two meanings: the truth table in `Formula.holds`, and the plain formula
that `Formula.expand` puts in its place.  The table looks a weight up as a plain name, and the
expansion turns it into an atom, which is a constant if it is called `TRUE` or `FALSE`.

**`holds_expand_eq`** says what the two have to do with each other for every formula: expanding is
reading the constants everywhere.  So they agree where the assignment gives the weights that are
called like constants the values of the constants (`ReadsWeights`), in particular for all formulas
without such weights, and one assignment serves all formulas exactly if it reads both constants.
-/

namespace GradedQuery.Formula

variable {f : Formula} {s s' : String → Bool}

/-- The names of the weights in a formula, from left to right. -/
def weights : Formula → List String
  | .atom _ => []
  | .not f => f.weights
  | .and l r | .or l r => l.weights ++ r.weights
  | .weightedAnd θ₁ θ₂ l r | .weightedOr θ₁ θ₂ l r => θ₁ :: θ₂ :: (l.weights ++ r.weights)

/-- Whether an assignment gives the weights that are called like a constant its value. -/
def ReadsWeights (s : String → Bool) (f : Formula) : Prop :=
  (trueName ∈ f.weights → s trueName = true) ∧ (falseName ∈ f.weights → s falseName = false)

/-! ## Reading the constants -/

/-- Reading the constants twice is reading them once. -/
@[simp] lemma atomHolds_atomHolds (s : String → Bool) : atomHolds (atomHolds s) = atomHolds s := by
  funext a
  by_cases htrue : a = trueName
  · rw [htrue, atomHolds_trueName, atomHolds_trueName]
  · by_cases hfalse : a = falseName
    · rw [hfalse, atomHolds_falseName, atomHolds_falseName]
    · rw [atomHolds_of_ne _ htrue hfalse]

/-- An assignment that gives the constants their values already reads them. -/
lemma atomHolds_eq_self (htrue : s trueName = true) (hfalse : s falseName = false) :
    atomHolds s = s := by
  funext a
  by_cases ha : a = trueName
  · rw [ha, atomHolds_trueName, htrue]
  · by_cases ha' : a = falseName
    · rw [ha', atomHolds_falseName, hfalse]
    · exact atomHolds_of_ne s ha ha'

lemma ReadsWeights.atomHolds_eq (h : f.ReadsWeights s) {θ : String} (hθ : θ ∈ f.weights) :
    atomHolds s θ = s θ := by
  by_cases htrue : θ = trueName
  · rw [htrue] at hθ ⊢
    rw [atomHolds_trueName, h.1 hθ]
  · by_cases hfalse : θ = falseName
    · rw [hfalse] at hθ ⊢
      rw [atomHolds_falseName, h.2 hθ]
    · exact atomHolds_of_ne s htrue hfalse

/-! ## Truth tables and expansion -/

/-- **Expanding is reading the constants everywhere**: the truth tables of the weighted connectives
do not read them in weights, and are the expansion's once the assignment does. -/
lemma holds_expand_eq (s : String → Bool) (f : Formula) :
    f.expand.holds s = f.holds (atomHolds s) := by
  induction f with
  | atom name => rw [expand, holds, holds, atomHolds_atomHolds]
  | not f ih => rw [expand, holds, holds, ih]
  | and l r ihl ihr => rw [expand, holds, holds, ihl, ihr]
  | or l r ihl ihr => rw [expand, holds, holds, ihl, ihr]
  | weightedAnd θ₁ θ₂ l r ihl ihr => simp only [expand, holds, ihl, ihr]
  | weightedOr θ₁ θ₂ l r ihl ihr => simp only [expand, holds, ihl, ihr]

/-- The value of a formula depends on its atoms, where constants are read, and on its weights, where
they are not. -/
lemma holds_congr (hatoms : atomHolds s = atomHolds s') (h : ∀ θ ∈ f.weights, s θ = s' θ) :
    f.holds s = f.holds s' := by
  induction f with
  | atom name => rw [holds, holds, hatoms]
  | not f ih => rw [holds, holds, ih h]
  | and l r ihl ihr =>
      rw [weights, List.forall_mem_append] at h
      rw [holds, holds, ihl h.1, ihr h.2]
  | or l r ihl ihr =>
      rw [weights, List.forall_mem_append] at h
      rw [holds, holds, ihl h.1, ihr h.2]
  | weightedAnd θ₁ θ₂ l r ihl ihr =>
      rw [weights, List.forall_mem_cons, List.forall_mem_cons, List.forall_mem_append] at h
      obtain ⟨h₁, h₂, hl, hr⟩ := h
      rw [holds, holds, ihl hl, ihr hr, h₁, h₂]
  | weightedOr θ₁ θ₂ l r ihl ihr =>
      rw [weights, List.forall_mem_cons, List.forall_mem_cons, List.forall_mem_append] at h
      obtain ⟨h₁, h₂, hl, hr⟩ := h
      rw [holds, holds, ihl hl, ihr hr, h₁, h₂]

lemma holds_expand_of_readsWeights (h : f.ReadsWeights s) : f.expand.holds s = f.holds s := by
  rw [holds_expand_eq]
  refine holds_congr (atomHolds_atomHolds s) fun θ hθ => ?_
  exact h.atomHolds_eq hθ

/-- One assignment serves all formulas exactly if it reads the constants.  Two formulas show what
happens otherwise: `WOR(θ,θ,TRUE,TRUE)` has the value that the table gives its weight `θ`. -/
lemma forall_holds_expand_iff (s : String → Bool) :
    (∀ f : Formula, f.expand.holds s = f.holds s) ↔ s trueName = true ∧ s falseName = false := by
  constructor
  · intro h
    have htrue := h (.weightedOr trueName trueName truth truth)
    have hfalse := h (.weightedOr falseName falseName truth truth)
    simp only [expand, holds, truth, atomHolds_trueName, atomHolds_falseName, Bool.true_and,
      Bool.and_false, Bool.or_self] at htrue hfalse
    exact ⟨htrue.symm, hfalse.symm⟩
  · rintro ⟨htrue, hfalse⟩ f
    rw [holds_expand_eq, atomHolds_eq_self htrue hfalse]

/-- **Expansion keeps the crisp meaning where weights that are called like constants have their
values.**  The command `check`, which decides a formula as it is written, then says what the
expanded formula is worth. -/
theorem holds_expand (f : Formula) (s : String → Bool) :
    f.expand.holds s = f.holds (atomHolds s) ∧
      (f.ReadsWeights s → f.expand.holds s = f.holds s) ∧
      (∀ atoms : OrderedSet String, f.ReadsWeights (fun name => name ∈ atoms) →
        CommandLine.checkValue atoms f = f.expand.holds fun name => name ∈ atoms) ∧
      ((∀ g : Formula, g.expand.holds s = g.holds s) ↔
        s trueName = true ∧ s falseName = false) := by
  refine ⟨holds_expand_eq s f, holds_expand_of_readsWeights, fun atoms hreads => ?_,
    forall_holds_expand_iff s⟩
  rw [CommandLine.checkValue, holds_expand_of_readsWeights hreads]

/-- A weight `TRUE` that is listed as true, and a weight `t2` that is not. -/
theorem holds_expand_listed :
    let f : Formula := .weightedOr trueName "t2" (.atom "A") (.atom "B")
    let atoms : OrderedSet String := .ofList ["A", "TRUE"]
    f.ReadsWeights (fun name => name ∈ atoms) ∧
      f.expand.holds (fun name => name ∈ atoms) = f.holds (fun name => name ∈ atoms) ∧
      CommandLine.checkValue atoms f = f.expand.holds fun name => name ∈ atoms := by
  intro f atoms
  have hreads : f.ReadsWeights fun name => name ∈ atoms :=
    ⟨fun _ => by decide, fun hfalse => absurd hfalse (by decide)⟩
  have h := holds_expand f fun name => name ∈ atoms
  exact ⟨hreads, h.2.1 hreads, h.2.2.1 atoms hreads⟩

/-- **A side with the weight `TRUE` is dropped by the truth table and counted by the expansion**,
unless `TRUE` is listed as true. -/
theorem holds_expand_ne_unlisted :
    parse "WOR(TRUE,t2,A,B)" = .ok (.weightedOr trueName "t2" (.atom "A") (.atom "B")) ∧
      CommandLine.checkValue (.singleton "A")
        (.weightedOr trueName "t2" (.atom "A") (.atom "B")) = false ∧
      (weightedOr trueName "t2" (.atom "A") (.atom "B")).holds (· = "A") = false ∧
      (weightedOr trueName "t2" (.atom "A") (.atom "B")).expand.holds (· = "A") = true := by
  refine ⟨?_, ?_, ?_, ?_⟩
  · cbv
  · decide
  · decide
  · decide

end GradedQuery.Formula
