import GradedQuery.Proofs.Compilation
import GradedQuery.Proofs.NormalizedFormula

/-!
# What the score of a query depends on

An object may have scores for many atoms, and a schema may list many attributes, but a query asks
only about the atoms in its text.  **Two objects with the same scores for these atoms, under schemas
with the same types for their attributes, have the same score** (`evaluate_compile_eq_of_agree`),
for the expanded formula and for the normalized one.  That holds in any arithmetic, since both runs
do the same operations on the same numbers.

Two facts carry it.  Evaluation looks nothing up but the atoms of the formula that it is given
(`evaluate_congr`).  And the stages bring no others in: **expansion keeps the atoms exactly**, as
the weights were among them before (`Formula.atoms_expand`), and normalization adds none but the
constants (`Formula.mem_names_of_normalize`), which are not looked up.
-/

namespace GradedQuery

/-! ## Evaluation -/

section

variable {α : Type} [Grade α] {schema schema' : Schema} {naming : Naming} {scores scores' : Scores α}
  {f : Formula} {a : String}

/-- The score that counts for an atom comes from the score given for it and from the type of its
attribute. -/
lemma atomScore_congr (hscore : scores.get? a = scores'.get? a)
    (htype : schema.typeOf (naming a) = schema'.typeOf (naming a)) :
    atomScore schema naming scores a = atomScore schema' naming scores' a := by
  rw [atomScore, atomScore, hscore, htype]

/-- **Evaluation depends on the atoms of the formula**, the constants apart. -/
lemma evaluate_congr (h : ∀ a ∈ f.names, a ≠ Formula.trueName → a ≠ Formula.falseName →
      atomScore schema naming scores a = atomScore schema' naming scores' a) :
    evaluate schema naming scores f = evaluate schema' naming scores' f := by
  induction f with
  | atom name =>
      have hname : constantOrScore schema naming scores name =
          constantOrScore schema' naming scores' name := by
        rw [constantOrScore, constantOrScore]
        split_ifs with htrue hfalse
        · rfl
        · rfl
        · exact h name List.mem_cons_self htrue hfalse
      rw [evaluate, evaluate, hname]
  | not f ih => rw [evaluate, evaluate, ih h]
  | and l r ihl ihr =>
      rw [Formula.names, List.forall_mem_append] at h
      rw [evaluate, evaluate, ihl h.1, ihr h.2]
  | or l r ihl ihr =>
      rw [Formula.names, List.forall_mem_append] at h
      rw [evaluate, evaluate, ihl h.1, ihr h.2]
  | weightedAnd θ₁ θ₂ l r => rfl
  | weightedOr θ₁ θ₂ l r => rfl

/-- A plain formula has a score. -/
lemma exists_evaluate (schema : Schema) (naming : Naming) (scores : Scores α)
    (hf : f.isExpanded = true) : ∃ x, evaluate schema naming scores f = .ok x := by
  induction f with
  | atom name => exact ⟨_, rfl⟩
  | not f ih =>
      obtain ⟨x, hx⟩ := ih hf
      exact ⟨Grade.clamp (Grade.complement x), by rw [evaluate, hx]; rfl⟩
  | and l r ihl ihr =>
      rw [Formula.isExpanded, Bool.and_eq_true] at hf
      obtain ⟨x, hx⟩ := ihl hf.1
      obtain ⟨y, hy⟩ := ihr hf.2
      exact ⟨Grade.clamp (x * y), by rw [evaluate, hx, hy]; rfl⟩
  | or l r ihl ihr =>
      rw [Formula.isExpanded, Bool.and_eq_true] at hf
      obtain ⟨x, hx⟩ := ihl hf.1
      obtain ⟨y, hy⟩ := ihr hf.2
      exact ⟨Grade.clamp (Grade.probabilisticSum x y), by rw [evaluate, hx, hy]; rfl⟩
  | weightedAnd θ₁ θ₂ l r => exact absurd hf Bool.false_ne_true
  | weightedOr θ₁ θ₂ l r => exact absurd hf Bool.false_ne_true

end

/-! ## The atoms of the stages -/

namespace Formula

variable {f : Formula} {a : String}

/-- Expansion turns weights into atoms, and all other names stay where they are. -/
lemma mem_names_expand : a ∈ f.expand.names ↔ a ∈ f.names := by
  induction f with
  | atom name => rfl
  | not f ih => exact ih
  | and l r ihl ihr => simp only [expand, names, List.mem_append, ihl, ihr]
  | or l r ihl ihr => simp only [expand, names, List.mem_append, ihl, ihr]
  | weightedAnd θ₁ θ₂ l r ihl ihr =>
      simp only [expand, names, List.mem_append, List.mem_cons, List.not_mem_nil, ihl, ihr]
      tauto
  | weightedOr θ₁ θ₂ l r ihl ihr =>
      simp only [expand, names, List.mem_append, List.mem_cons, List.not_mem_nil, ihl, ihr]
      tauto

/-- **Expansion keeps the set of the atoms.** -/
lemma atoms_expand (f : Formula) : f.expand.atoms = f.atoms :=
  OrderedSet.ext_mem fun a => by rw [mem_atoms, mem_atoms, mem_names_expand]

end Formula

/-! ## Queries -/

section

variable {α : Type} [Grade α] {opts : SplitOptions} {naming : Naming} {text : String} {c : Compiled}
  {schema schema' : Schema} {scores scores' : Scores α}

/-- The normalized formula of a compilation names atoms of the text, and constants. -/
lemma mem_atoms_of_compile (hc : (compile opts naming text).outcome = .ok c) {a : String}
    (ha : a ∈ c.normalized.atoms) :
    a = Formula.trueName ∨ a = Formula.falseName ∨ a ∈ c.parsed.atoms := by
  obtain ⟨-, hexpand, hnormalize⟩ := outcome_compile_eq_ok.1 hc
  have hname := Formula.mem_names_of_normalize hnormalize (Formula.mem_atoms.1 ha)
  rwa [hexpand, Formula.mem_names_expand, ← Formula.mem_atoms] at hname

/-- **The score of a query depends only on the atoms in its text**: two objects that have the same
scores for them, under schemas that have the same types for their attributes, are scored alike by
the expanded and by the normalized formula. -/
theorem evaluate_compile_eq_of_agree (hc : (compile opts naming text).outcome = .ok c)
    (hscores : ∀ a ∈ c.parsed.atoms, scores.get? a = scores'.get? a)
    (htypes : ∀ a ∈ c.parsed.atoms, schema.typeOf (naming a) = schema'.typeOf (naming a)) :
    c.expanded.atoms = c.parsed.atoms ∧
      (∀ a ∈ c.normalized.atoms,
        a = Formula.trueName ∨ a = Formula.falseName ∨ a ∈ c.parsed.atoms) ∧
      (∃ x, evaluate schema naming scores c.expanded = .ok x ∧
        evaluate schema' naming scores' c.expanded = .ok x) ∧
      ∃ x, evaluate schema naming scores c.normalized = .ok x ∧
        evaluate schema' naming scores' c.normalized = .ok x := by
  obtain ⟨-, hexpand, hnormalize⟩ := outcome_compile_eq_ok.1 hc
  have hatoms : c.expanded.atoms = c.parsed.atoms := by rw [hexpand, Formula.atoms_expand]
  have hsame : ∀ a ∈ c.parsed.atoms,
      atomScore schema naming scores a = atomScore schema' naming scores' a :=
    fun a ha => atomScore_congr (hscores a ha) (htypes a ha)
  have hexpanded : evaluate schema naming scores c.expanded =
      evaluate schema' naming scores' c.expanded :=
    evaluate_congr fun a ha _ _ => hsame a (hatoms ▸ Formula.mem_atoms.2 ha)
  have hnormalized : evaluate schema naming scores c.normalized =
      evaluate schema' naming scores' c.normalized := by
    refine evaluate_congr fun a ha htrue hfalse => ?_
    rcases mem_atoms_of_compile hc (Formula.mem_atoms.2 ha) with rfl | rfl | ha
    · exact absurd rfl htrue
    · exact absurd rfl hfalse
    · exact hsame a ha
  obtain ⟨x, hx⟩ := exists_evaluate schema naming scores
    (hexpand ▸ c.parsed.isExpanded_expand : c.expanded.isExpanded = true)
  obtain ⟨y, hy⟩ := exists_evaluate schema naming scores
    (Formula.isExpanded_of_normalize hnormalize)
  exact ⟨hatoms, fun a => mem_atoms_of_compile hc, ⟨x, hx, hexpanded ▸ hx⟩,
    ⟨y, hy, hnormalized ▸ hy⟩⟩

end

/-- One object has a score for an atom `r` besides, and its schema lists the attribute of that
atom; `p` and `t` are on one attribute, and the weight `TRUE` is an atom of the text. -/
theorem evaluate_compile_eq_of_agree_unrelated :
    let naming : Naming := fun a => if a = "r" then "r" else "q"
    let c : Compiled := {
      parsed := .weightedOr "TRUE" "t" (.atom "p") (.atom "t")
      expanded := .or (.and (.atom "p") (.atom "TRUE")) (.and (.atom "t") (.atom "t"))
      normalized := .or (.atom "p") (.and (.not (.atom "p")) (.atom "t")) }
    let scores : Scores Float := .ofList [("p", 0.5), ("r", 0.25)]
    let scores' : Scores Float := .ofList [("p", 0.5)]
    let schema : Schema := .ofList [("r", .db), ("q", .text)]
    let schema' : Schema := .ofList [("q", .text)]
    (compile ⟨.singleton "q", 1⟩ naming "WOR(TRUE,t,p,t)").outcome = .ok c ∧
      (∀ a ∈ c.parsed.atoms, scores.get? a = scores'.get? a) ∧
      (∀ a ∈ c.parsed.atoms, schema.typeOf (naming a) = schema'.typeOf (naming a)) ∧
      ∃ x, evaluate schema naming scores c.normalized = .ok x ∧
        evaluate schema' naming scores' c.normalized = .ok x := by
  intro naming c scores scores' schema schema'
  have hc : (compile ⟨.singleton "q", 1⟩ naming "WOR(TRUE,t,p,t)").outcome = .ok c := by
    cbv
  have hnames : ∀ a ∈ c.parsed.atoms, a = "TRUE" ∨ a = "t" ∨ a = "p" ∨ a = "t" := by
    intro a ha
    simpa [c, Formula.names] using ha
  have hscores : ∀ a ∈ c.parsed.atoms, scores.get? a = scores'.get? a := by
    intro a ha
    rcases hnames a ha with rfl | rfl | rfl | rfl <;> simp [scores, scores', OrderedMap.ofList]
  have htypes : ∀ a ∈ c.parsed.atoms, schema.typeOf (naming a) = schema'.typeOf (naming a) := by
    intro a ha
    rcases hnames a ha with rfl | rfl | rfl | rfl <;> decide
  exact ⟨hc, hscores, htypes, (evaluate_compile_eq_of_agree hc hscores htypes).2.2.2⟩

end GradedQuery
