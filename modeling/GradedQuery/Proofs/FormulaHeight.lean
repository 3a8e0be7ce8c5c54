import GradedQuery.Proofs.RelevantAtoms
import GradedQuery.Proofs.Rendering
import GradedQuery.Proofs.TermCount

/-!
# How high the formulas of the stages are

The reader bounds the height of a tree, and the stages behind it recurse over trees.  Two of the
three trees of a compilation keep to the bound.  A text that is read has a formula of height 256 at
most, and expansion at most doubles the height (`height_expand_le`).

The third one does not.  A normalized formula is a disjunction to the left, one level higher with
each term, so **its height is the number of its terms and at most the literals of one term more**
(`size_le_height`, `height_toFormula_le`).  The number of terms is bounded by the number of atoms
only, and exponentially: six groups of three atoms have 729 terms.

The same height decides whether the normalized formula can be used as a query again.  It negates
atoms only, so that its text opens no more levels than the formula is high
(`renderNesting_toFormula_le`), and **it is read back exactly if its height is 256 at most**.
-/

namespace GradedQuery

/-! ## Expansion -/

namespace Formula

variable {f g : Formula} {fs : List Formula} {n : Nat}

lemma one_le_height (f : Formula) : 1 ≤ f.height := by
  cases f <;> simp [height]

/-- A weighted connective becomes two plain ones with a literal below, so no level turns into more
than two. -/
lemma height_expand_le (f : Formula) : f.expand.height ≤ 2 * f.height := by
  induction f with
  | atom name => simp [expand, height]
  | not f ih =>
      rw [expand, height, height]
      omega
  | and l r ihl ihr | or l r ihl ihr =>
      rw [expand, height, height]
      omega
  | weightedAnd θ₁ θ₂ l r ihl ihr | weightedOr θ₁ θ₂ l r ihl ihr =>
      have hl := l.one_le_height
      simp only [expand, height]
      omega

/-! ## Formulas to the left -/

lemma renderNesting_join (c : Connective) (f g : Formula) :
    (c.join f g).renderNesting = max f.renderNesting g.renderNesting + 1 := by
  cases c <;> rfl

lemma le_height_foldl_join (c : Connective) (f : Formula) (fs : List Formula) :
    f.height + fs.length ≤ (fs.foldl c.join f).height := by
  induction fs generalizing f with
  | nil => exact le_rfl
  | cons g fs ih =>
      have hrest := ih (c.join f g)
      rw [Connective.height_join] at hrest
      rw [List.foldl_cons, List.length_cons]
      omega

lemma height_foldl_join_le (c : Connective) (hf : f.height ≤ n) (hfs : ∀ g ∈ fs, g.height ≤ n) :
    (fs.foldl c.join f).height ≤ n + fs.length := by
  induction fs generalizing f n with
  | nil => exact hf
  | cons g fs ih =>
      rw [List.forall_mem_cons] at hfs
      have hjoin : (c.join f g).height ≤ n + 1 := by
        rw [Connective.height_join]
        omega
      have hrest := ih hjoin fun g hg => Nat.le_succ_of_le (hfs.2 g hg)
      rw [List.foldl_cons, List.length_cons]
      omega

lemma renderNesting_foldl_join_le (c : Connective) (hf : f.renderNesting ≤ f.height)
    (hfs : ∀ g ∈ fs, g.renderNesting ≤ g.height) :
    (fs.foldl c.join f).renderNesting ≤ (fs.foldl c.join f).height := by
  induction fs generalizing f with
  | nil => exact hf
  | cons g fs ih =>
      rw [List.forall_mem_cons] at hfs
      have hg := hfs.1
      refine ih ?_ hfs.2
      rw [renderNesting_join, Connective.height_join]
      omega

/-- Formulas joined to the left; a constant if there is none. -/
def joined (c : Connective) (constant : Formula) : List Formula → Formula
  | [] => constant
  | f :: fs => fs.foldl c.join f

section

variable {k : Formula} {c : Connective}

lemma length_le_height_joined (c : Connective) (k : Formula) (fs : List Formula) :
    fs.length ≤ (joined c k fs).height := by
  cases fs with
  | nil => exact Nat.zero_le _
  | cons f fs =>
      have hfold := le_height_foldl_join c f fs
      have hf := f.one_le_height
      rw [joined, List.length_cons]
      omega

lemma height_joined_le (hk : k.height = 1) (h : ∀ g ∈ fs, g.height ≤ n + 1) :
    (joined c k fs).height ≤ max (fs.length + n) 1 := by
  cases fs with
  | nil => exact hk.trans_le (le_max_right _ _)
  | cons f fs =>
      rw [List.forall_mem_cons] at h
      have hfold := height_foldl_join_le c h.1 h.2
      rw [joined, List.length_cons]
      omega

lemma renderNesting_joined_le (hk : k.renderNesting ≤ k.height)
    (h : ∀ g ∈ fs, g.renderNesting ≤ g.height) :
    (joined c k fs).renderNesting ≤ (joined c k fs).height := by
  cases fs with
  | nil => exact hk
  | cons f fs =>
      rw [List.forall_mem_cons] at h
      exact renderNesting_foldl_join_le c h.1 h.2

end

end Formula

/-! ## Terms and normal forms -/

namespace Literal

lemma height_toFormula_le (l : Literal) : l.toFormula.height ≤ 2 := by
  rw [toFormula]
  split <;> simp [Formula.height]

lemma renderNesting_toFormula_le (l : Literal) : l.toFormula.renderNesting ≤ l.toFormula.height := by
  rw [toFormula]
  split <;> simp [Formula.height, Formula.renderNesting]

end Literal

namespace Term

lemma toFormula_eq_joined (t : Term) :
    t.toFormula = .joined .and .truth (t.literals.toList.map Literal.toFormula) := rfl

lemma height_toFormula_le (t : Term) : t.toFormula.height ≤ t.size + 1 := by
  have hbound := Formula.height_joined_le (c := .and) (k := .truth) (n := 1) rfl
    (List.forall_mem_map.2 fun l (_ : l ∈ t.literals.toList) => l.height_toFormula_le)
  rw [List.length_map] at hbound
  rw [toFormula_eq_joined, size, OrderedSet.size]
  omega

lemma renderNesting_toFormula_le (t : Term) : t.toFormula.renderNesting ≤ t.toFormula.height := by
  rw [toFormula_eq_joined]
  exact Formula.renderNesting_joined_le (Nat.zero_le _)
    (List.forall_mem_map.2 fun l _ => l.renderNesting_toFormula_le)

end Term

namespace Dnf

variable {d : Dnf} {n : Nat}

lemma toFormula_eq_joined (d : Dnf) :
    d.toFormula = .joined .or .falsity (d.terms.toList.map Term.toFormula) := rfl

/-- **The formula of a normal form is at least as high as the normal form has terms.** -/
lemma size_le_height (d : Dnf) : d.size ≤ d.toFormula.height := by
  have hbound := Formula.length_le_height_joined .or .falsity (d.terms.toList.map Term.toFormula)
  rwa [List.length_map] at hbound

/-- **It is higher by no more than the literals of the longest term.** -/
lemma height_toFormula_le (h : ∀ t ∈ d.terms, t.size ≤ n) :
    d.toFormula.height ≤ max (d.size + n) 1 := by
  have hbound := Formula.height_joined_le (c := .or) (k := .falsity) (n := n) rfl
    (List.forall_mem_map.2 fun t (ht : t ∈ d.terms.toList) =>
      t.height_toFormula_le.trans (Nat.succ_le_succ (h t ht)))
  rwa [List.length_map] at hbound

/-- Its text opens no more levels than it is high, since only atoms are negated in it. -/
lemma renderNesting_toFormula_le (d : Dnf) : d.toFormula.renderNesting ≤ d.toFormula.height := by
  rw [toFormula_eq_joined]
  exact Formula.renderNesting_joined_le (Nat.zero_le _)
    (List.forall_mem_map.2 fun t _ => t.renderNesting_toFormula_le)

end Dnf

/-! ## Compilations -/

section

variable {opts : SplitOptions} {naming : Naming} {text : String} {c : Compiled} {f g : Formula}

lemma Formula.openAtoms_expand (f : Formula) : f.expand.openAtoms = f.openAtoms := by
  ext a
  rw [mem_openAtoms, mem_openAtoms, mem_names_expand]

/-- A normalized formula is that of a well-formed normal form over open atoms of the text. -/
lemma exists_normalForm_of_compile (hc : (compile opts naming text).outcome = .ok c) :
    ∃ d : Dnf, c.normalized = d.toFormula ∧ d.WellFormed ∧
      ∀ a, d.Mentions a → a ∈ c.parsed.openAtoms := by
  obtain ⟨-, hexpand, hnormalize⟩ := outcome_compile_eq_ok.1 hc
  obtain ⟨d, e, hd, he, hformula⟩ := Formula.outcome_normalize_eq_ok.1 hnormalize
  refine ⟨e, hformula, (Dnf.of_normalize_eq_ok (Dnf.WellFormed.ofFormula hd) he).1, ?_⟩
  intro a ha
  rw [← Formula.openAtoms_expand, ← hexpand]
  exact Dnf.mem_openAtoms_of_mentions (Dnf.ofFormulaIn_eq_ok.1 hd) (Dnf.mentions_of_normalize he ha)

/-- **What the limit on the text says about the formulas of the later stages.**  Expansion keeps to
twice the limit.  The normalized formula is as high as it has terms, up to the literals of the
longest one, and the text bounds that by its number of atoms only. -/
theorem height_compile (h : parse text = .ok f) (opts : SplitOptions) (naming : Naming) :
    ∃ (c : Compiled) (d : Dnf), (compile opts naming text).outcome = .ok c ∧ c.parsed = f ∧
      c.parsed.height ≤ maxNesting ∧ c.expanded.height ≤ 2 * maxNesting ∧
      c.normalized = d.toFormula ∧ d.size ≤ c.normalized.height ∧
      (∀ n, (∀ t ∈ d.terms, t.size ≤ n) → c.normalized.height ≤ max (d.size + n) 1) ∧
      c.normalized.height ≤ 3 ^ f.openAtoms.card + f.openAtoms.card := by
  obtain ⟨c, hc, rfl⟩ := exists_compile_of_parse opts naming h
  obtain ⟨d, hformula, hwf, hatoms⟩ := exists_normalForm_of_compile hc
  have hparsed : c.parsed.height ≤ maxNesting := (of_parse_eq_ok h).2
  have hexpanded : c.expanded.height ≤ 2 * maxNesting := by
    rw [(outcome_compile_eq_ok.1 hc).2.1]
    exact c.parsed.height_expand_le.trans (Nat.mul_le_mul_left 2 hparsed)
  have hterms : d.size ≤ 3 ^ c.parsed.openAtoms.card := hwf.size_le_pow hatoms
  have hliterals : ∀ t ∈ d.terms, t.size ≤ c.parsed.openAtoms.card := fun t ht =>
    (hwf.terms t ht).size_le_card fun l hl => hatoms _ (Dnf.mentions_of_mem ht hl)
  refine ⟨c, d, hc, rfl, hparsed, hexpanded, hformula, ?_, fun n hn => ?_, ?_⟩
  · rw [hformula]
    exact d.size_le_height
  · rw [hformula]
    exact Dnf.height_toFormula_le hn
  · have hpos : 0 < 3 ^ c.parsed.openAtoms.card := Nat.pow_pos (by decide)
    have hheight := Dnf.height_toFormula_le hliterals
    rw [hformula]
    omega

/-- A call, two atoms that stand twice, and a split on one of them. -/
theorem height_compile_call :
    let f : Formula := .weightedAnd "t" "u" (.atom "p") (.or (.atom "q") (.atom "p"))
    let naming : Naming := fun _ => "price"
    parse "WAND(t,u,p,q|p)" = .ok f ∧
      ∃ (c : Compiled) (d : Dnf),
        (compile ⟨.singleton "price", 4⟩ naming "WAND(t,u,p,q|p)").outcome = .ok c ∧
        c.expanded.height ≤ 512 ∧ c.normalized = d.toFormula ∧ d.size ≤ c.normalized.height ∧
        c.normalized.height ≤ 3 ^ 4 + 4 := by
  intro f naming
  have hparse : parse "WAND(t,u,p,q|p)" = .ok f := by cbv
  obtain ⟨c, d, hc, -, -, hexpanded, hformula, hterms, -, hatoms⟩ :=
    height_compile hparse ⟨.singleton "price", 4⟩ naming
  exact ⟨hparse, c, d, hc, hexpanded, hformula, hterms, hatoms⟩

end

/-! ## Many terms from few atoms -/

section

variable {opts : SplitOptions} {naming : Naming} {text : String} {f g : Formula}

/-- Where no attribute is ordinal nothing is split, and the normalized formula has the terms of the
formula that was given. -/
lemma termCount_le_height (hopts : opts.ordinal = ∅) (honce : f.ReadOnce)
    (hopen : ∀ a ∈ f.names, a ≠ Formula.trueName ∧ a ≠ Formula.falseName)
    (h : (f.normalize opts naming).outcome = .ok g) : f.termCount false ≤ g.height := by
  obtain ⟨d, e, hd, he, rfl⟩ := Formula.outcome_normalize_eq_ok.1 h
  have hfree : d.isOverlapFree opts naming = true := by
    refine Dnf.isOverlapFree_iff.2 fun t _ u _ _ => Dnf.separated_iff.2 fun _ attr hattr => ?_
    rw [hopts] at hattr
    exact absurd hattr (OrderedSet.not_mem_empty attr)
  rw [Dnf.normalize_of_isOverlapFree hfree] at he
  cases he
  rw [← (Dnf.hasTerms_ofSigned honce hopen (Dnf.ofFormulaIn_eq_ok.1 hd)).size_eq]
  exact d.size_le_height

/-- Any one of three atoms. -/
def anyOf (a b c : String) : Formula := .or (.or (.atom a) (.atom b)) (.atom c)

/-- One atom of each of six groups. -/
def sixGroups : Formula :=
  .and (.and (.and (.and (.and (anyOf "a" "b" "c") (anyOf "d" "e" "f")) (anyOf "g" "h" "i"))
    (anyOf "j" "k" "l")) (anyOf "m" "n" "o")) (anyOf "p" "q" "r")

/-- The text of `sixGroups`, of 47 characters. -/
def sixGroupsText : String := "(a|b|c)&(d|e|f)&(g|h|i)&(j|k|l)&(m|n|o)&(p|q|r)"

lemma parse_sixGroupsText : parse sixGroupsText = .ok sixGroups := by cbv

/-- Six groups of three atoms make 729 terms. -/
lemma exists_compile_sixGroups (naming : Naming) :
    ∃ c, (compile {} naming sixGroupsText).outcome = .ok c ∧ 729 ≤ c.normalized.height := by
  obtain ⟨c, hc, hparsed⟩ := exists_compile_of_parse {} naming parse_sixGroupsText
  obtain ⟨-, hexpand, hnormalize⟩ := outcome_compile_eq_ok.1 hc
  rw [hexpand, hparsed] at hnormalize
  have honce : sixGroups.expand.ReadOnce := by decide
  have hopen : ∀ a ∈ sixGroups.expand.names, a ≠ Formula.trueName ∧ a ≠ Formula.falseName := by
    decide
  exact ⟨c, hc, termCount_le_height rfl honce hopen hnormalize⟩

/-- **A text of 47 characters whose normalized formula is higher than twice the limit.** -/
theorem height_compile_sixGroups :
    ∃ c, (compile {} defaultNaming sixGroupsText).outcome = .ok c ∧
      2 * maxNesting < c.normalized.height := by
  obtain ⟨c, hc, hheight⟩ := exists_compile_sixGroups defaultNaming
  exact ⟨c, hc, Nat.lt_of_lt_of_le (by decide) hheight⟩

end

/-! ## Reading a normalized formula back -/

section

variable {opts : SplitOptions} {naming : Naming} {text : String} {c : Compiled}

/-- The names in a normalized formula come from the text, or are constants. -/
lemma hasNames_of_compile (hc : (compile opts naming text).outcome = .ok c) :
    c.normalized.HasNames := by
  intro w hw
  rcases mem_atoms_of_compile hc (Formula.mem_atoms.2 hw) with rfl | rfl | hparsed
  · decide
  · decide
  · exact (of_parse_eq_ok (outcome_compile_eq_ok.1 hc).1).1 w (Formula.mem_atoms.1 hparsed)

/-- A normalized formula within the height limit is within the other limit too. -/
lemma parse_render_of_compile (hc : (compile opts naming text).outcome = .ok c) :
    (c.normalized.height ≤ maxNesting ∧ parse c.normalized.render = .ok c.normalized) ∨
      (maxNesting < c.normalized.height ∧ ∃ found offset, parse c.normalized.render =
        .error (.misplaced .shallowerNesting (some found) offset)) := by
  obtain ⟨d, hformula, -⟩ := exists_normalForm_of_compile hc
  have hnesting : c.normalized.renderNesting ≤ c.normalized.height := by
    rw [hformula]
    exact d.renderNesting_toFormula_le
  rcases parse_render (hasNames_of_compile hc) with ⟨hheight, -, hparse⟩ | ⟨hbeyond, hrefused⟩
  · exact Or.inl ⟨hheight, hparse⟩
  · exact Or.inr ⟨by omega, hrefused⟩

/-- **A normalized formula is read back exactly if its height is within the limit**, and refused for
its nesting otherwise.  It is within the limit if its terms and the literals of the longest one are
not more than 256 together, and beyond it if the terms alone are more. -/
theorem parse_render_normalized (hc : (compile opts naming text).outcome = .ok c) :
    (parse c.normalized.render = .ok c.normalized ↔ c.normalized.height ≤ 256) ∧
      (256 < c.normalized.height → ∃ expected found offset,
        parse c.normalized.render = .error (.misplaced expected (some found) offset) ∧
          expected.describe = "at most 256 nested levels") ∧
      ∃ d : Dnf, c.normalized = d.toFormula ∧ d.size ≤ c.normalized.height ∧
        ∀ n, (∀ t ∈ d.terms, t.size ≤ n) → c.normalized.height ≤ max (d.size + n) 1 := by
  obtain ⟨d, hformula, -⟩ := exists_normalForm_of_compile hc
  have hterms : ∃ d : Dnf, c.normalized = d.toFormula ∧ d.size ≤ c.normalized.height ∧
      ∀ n, (∀ t ∈ d.terms, t.size ≤ n) → c.normalized.height ≤ max (d.size + n) 1 := by
    rw [hformula]
    exact ⟨d, rfl, d.size_le_height, fun n => Dnf.height_toFormula_le⟩
  have hback := parse_render_of_compile hc
  rw [show maxNesting = 256 from rfl] at hback
  rcases hback with ⟨hheight, hparse⟩ | ⟨hheight, found, offset, hrefused⟩
  · exact ⟨⟨fun _ => hheight, fun _ => hparse⟩, fun hlt => absurd hheight (Nat.not_le.2 hlt), hterms⟩
  · refine ⟨⟨fun hok => ?_, fun hle => absurd hle (Nat.not_le.2 hheight)⟩,
      fun _ => ⟨.shallowerNesting, found, offset, hrefused, by decide⟩, hterms⟩
    rw [hrefused] at hok
    cases hok

/-- A case split on `p` brings in a negation, and the text of the result is a query again. -/
theorem parse_render_normalized_split :
    let c : Compiled := {
      parsed := .or (.atom "p") (.atom "t")
      expanded := .or (.atom "p") (.atom "t")
      normalized := .or (.atom "p") (.and (.not (.atom "p")) (.atom "t")) }
    (compile ⟨.singleton "q", 1⟩ (fun _ => "q") "p | t").outcome = .ok c ∧
      parse c.normalized.render = .ok c.normalized := by
  intro c
  have hc : (compile ⟨.singleton "q", 1⟩ (fun _ => "q") "p | t").outcome = .ok c := by cbv
  exact ⟨hc, (parse_render_normalized hc).1.2 (by decide)⟩

/-- **A normalized formula that the parser refuses.** -/
theorem parse_render_ne_sixGroups :
    ∃ c, (compile {} defaultNaming sixGroupsText).outcome = .ok c ∧
      parse c.normalized.render ≠ .ok c.normalized := by
  obtain ⟨c, hc, hheight⟩ := exists_compile_sixGroups defaultNaming
  refine ⟨c, hc, fun hback => ?_⟩
  rcases parse_render_of_compile hc with ⟨hwithin, -⟩ | ⟨-, found, offset, hrefused⟩
  · exact absurd (hheight.trans hwithin) (by decide)
  · rw [hrefused] at hback
    cases hback

end

end GradedQuery
