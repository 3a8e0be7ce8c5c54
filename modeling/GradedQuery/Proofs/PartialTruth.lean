import GradedQuery.Proofs.Conversion

/-!
# What a term decides

A term asserts some atoms, denies others and leaves the rest open.  Under it a formula is true,
false or open, by three-valued tables: an open part leaves a conjunction open unless the other part
is false, and a disjunction unless the other part is true.

A normal form *covers* a term if one of its own terms is inside it.

* **`covers_ofSigned`** — the normal form of a formula covers exactly the terms that make the
  formula true.  Neither of the two shortcuts of the conversion shows here: a pair of terms that
  exclude each other is together inside no well-formed term, and an absorbed term covers nothing
  that its absorber does not cover.
* **`eq_of_covers`** — a well-formed normal form is determined by what it covers, since its terms
  are the smallest of these.

So whatever leaves the three-valued meaning of a formula alone leaves its normal form alone.
-/

namespace GradedQuery

/-! ## Three-valued connectives -/

namespace Connective

variable {x y : Option Bool}

/-- The value of a part that decides the whole: false for a conjunction, true for a disjunction. -/
def decisive : Connective → Bool
  | .and => false
  | .or => true

/-- The three-valued table of a connective; an open value is `none`. -/
def table (c : Connective) : Option Bool → Option Bool → Option Bool
  | some a, some b => some (if a = c.decisive then a else b)
  | some a, none | none, some a => if a = c.decisive then some a else none
  | none, none => none

/-- The whole has the decisive value if one part has it. -/
lemma table_eq_decisive_iff (c : Connective) :
    c.table x y = some c.decisive ↔ x = some c.decisive ∨ y = some c.decisive := by
  cases c <;> rcases x with _ | _ | _ <;> rcases y with _ | _ | _ <;> simp [table, decisive]

/-- The whole has the other value if both parts have it. -/
lemma table_eq_not_decisive_iff (c : Connective) :
    c.table x y = some (!c.decisive) ↔ x = some (!c.decisive) ∧ y = some (!c.decisive) := by
  cases c <;> rcases x with _ | _ | _ <;> rcases y with _ | _ | _ <;> simp [table, decisive]

end Connective

namespace Formula

/-- The value of an atom under a term. -/
def atomIn (t : Term) (name : String) : Option Bool :=
  if name = trueName then some true
  else if name = falseName then some false
  else if t.contains (.positive name) then some true
  else if t.contains (.negative name) then some false
  else none

/-- An atom has the value that a literal of the term gives it; there is at most one on it. -/
lemma atomIn_eq_some_iff {t : Term} {name : String} {b : Bool} (ht : t.WellFormed)
    (htrue : name ≠ trueName) (hfalse : name ≠ falseName) :
    atomIn t name = some b ↔ ⟨name, !b⟩ ∈ t.literals := by
  have hexclude : .positive name ∈ t.literals → .negative name ∉ t.literals :=
    ht.consistent (.positive name)
  rw [atomIn, if_neg htrue, if_neg hfalse]
  simp only [Term.contains_iff]
  cases b with
  | true =>
      show _ ↔ .positive name ∈ t.literals
      split_ifs with hpos hneg <;> simp [hpos]
  | false =>
      show _ ↔ .negative name ∈ t.literals
      split_ifs with hpos hneg
      · simp [hexclude hpos]
      · simp [hneg]
      · simp [hneg]

/-- The value of a plain formula under a term; a weighted connective is left open. -/
def valueIn (t : Term) : Formula → Option Bool
  | .atom name => atomIn t name
  | .not f => (f.valueIn t).map (!·)
  | .and l r => Connective.and.table (l.valueIn t) (r.valueIn t)
  | .or l r => Connective.or.table (l.valueIn t) (r.valueIn t)
  | .weightedAnd .. | .weightedOr .. => none

end Formula

/-! ## Covered terms -/

namespace Dnf

variable {d e : Dnf} {t u : Term} {ts : List Term} {l : Literal} {f : Formula} {negated : Bool}

/-- Whether a term of the normal form is inside a term. -/
def Covers (d : Dnf) (t : Term) : Prop := ∃ u ∈ d.terms, u ⊆ t

lemma covers_of_mem (h : t ∈ d.terms) : d.Covers t := ⟨t, h, t.subset_refl⟩

lemma covers_ofTerms : (ofTerms ts).Covers t ↔ ∃ u ∈ ts, u ⊆ t := by
  constructor
  · rintro ⟨u, hu, hut⟩
    exact ⟨u, mem_of_mem_ofTerms hu, hut⟩
  · rintro ⟨u, hu, hut⟩
    obtain ⟨k, hk, hku⟩ := exists_subset_ofTerms hu
    exact ⟨k, hk, Term.subset_trans hku hut⟩

lemma covers_or : (d.or e).Covers t ↔ d.Covers t ∨ e.Covers t := by
  rw [or, covers_ofTerms]
  constructor
  · rintro ⟨u, hu, hut⟩
    exact (List.mem_append.1 hu).imp (fun hu => ⟨u, hu, hut⟩) fun hu => ⟨u, hu, hut⟩
  · rintro (⟨u, hu, hut⟩ | ⟨u, hu, hut⟩)
    · exact ⟨u, List.mem_append_left _ hu, hut⟩
    · exact ⟨u, List.mem_append_right _ hu, hut⟩

lemma covers_and (ht : t.WellFormed) : (d.and e).Covers t ↔ d.Covers t ∧ e.Covers t := by
  rw [and, covers_ofTerms]
  constructor
  · rintro ⟨w, hw, hwt⟩
    obtain ⟨u, hu, v, hv, huv⟩ := mem_products.1 hw
    have hmem := (Term.conjoin?_eq_some.1 huv).2
    refine ⟨⟨u, hu, fun l hl => ?_⟩, ⟨v, hv, fun l hl => ?_⟩⟩
    · exact hwt l ((hmem l).2 (Or.inl hl))
    · exact hwt l ((hmem l).2 (Or.inr hl))
  · rintro ⟨⟨u, hu, hut⟩, ⟨v, hv, hvt⟩⟩
    -- parts of a well-formed term do not exclude each other, so the pair was not dropped
    obtain ⟨w, huv, hwt⟩ := ht.exists_conjoin? hut hvt
    exact ⟨w, mem_products.2 ⟨u, hu, v, hv, huv⟩, hwt⟩

/-- A literal covers the terms that it is in; a constant covers all terms or none. -/
lemma covers_ofLiteral (ht : t.WellFormed) :
    (ofLiteral l).Covers t ↔ Formula.atomIn t l.atom = some (!l.negated) := by
  have hne : Formula.falseName ≠ Formula.trueName := by decide
  rw [ofLiteral, covers_ofTerms]
  by_cases htrue : l.atom = Formula.trueName
  · cases hneg : l.negated <;> simp [Term.ofLiteral?, Formula.atomIn, htrue, hneg]
  · by_cases hfalse : l.atom = Formula.falseName
    · cases hneg : l.negated <;> simp [Term.ofLiteral?, Formula.atomIn, hfalse, hne, hneg]
    · rw [Formula.atomIn_eq_some_iff ht htrue hfalse, Bool.not_not, Term.ofLiteral?,
        if_neg htrue, if_neg hfalse]
      simp only [Option.toList_some, List.mem_singleton, exists_eq_left]
      exact OrderedSet.forall_mem_singleton

/-! ## What the normal form of a formula covers -/

/-- **The normal form of a formula covers the terms that make the formula true**, and that of its
negation the terms that make it false. -/
lemma covers_ofSigned (ht : t.WellFormed) (h : ofSigned negated f = .ok d) :
    d.Covers t ↔ f.valueIn t = some (!negated) := by
  induction f generalizing negated d with
  | atom name =>
      cases h
      exact covers_ofLiteral ht
  | not f ih =>
      rw [ih h, Formula.valueIn]
      rcases f.valueIn t with _ | _ | _ <;> cases negated <;> simp
  | and l r ihl ihr =>
      obtain ⟨dl, dr, hl, hr, rfl⟩ := ofSigned_and h
      cases negated with
      | false =>
          rw [meet, if_neg Bool.false_ne_true, covers_and ht, ihl hl, ihr hr]
          exact (Connective.table_eq_not_decisive_iff .and).symm
      | true =>
          rw [meet, if_pos rfl, covers_or, ihl hl, ihr hr]
          exact (Connective.table_eq_decisive_iff .and).symm
  | or l r ihl ihr =>
      obtain ⟨dl, dr, hl, hr, rfl⟩ := ofSigned_or h
      cases negated with
      | false =>
          rw [join, if_neg Bool.false_ne_true, covers_or, ihl hl, ihr hr]
          exact (Connective.table_eq_decisive_iff .or).symm
      | true =>
          rw [join, if_pos rfl, covers_and ht, ihl hl, ihr hr]
          exact (Connective.table_eq_not_decisive_iff .or).symm
  | weightedAnd θ₁ θ₂ l r => cases h
  | weightedOr θ₁ θ₂ l r => cases h

/-! ## A normal form is determined by what it covers -/

lemma mem_of_covers (hd : d.WellFormed) (he : e.WellFormed)
    (h : ∀ t : Term, t.WellFormed → (d.Covers t ↔ e.Covers t)) (ht : t ∈ d.terms) :
    t ∈ e.terms := by
  obtain ⟨u, hu, hut⟩ := (h t (hd.terms t ht)).1 (covers_of_mem ht)
  obtain ⟨v, hv, hvu⟩ := (h u (he.terms u hu)).2 (covers_of_mem hu)
  -- the way back ends at the term that it started from, which is the smallest one there
  have hvt : v = t := hd.antichain v hv t ht (Term.subset_trans hvu hut)
  rw [hvt] at hvu
  rwa [Term.eq_of_subset hvu hut]

/-- **Well-formed normal forms that cover the same terms are equal.** -/
lemma eq_of_covers (hd : d.WellFormed) (he : e.WellFormed)
    (h : ∀ t : Term, t.WellFormed → (d.Covers t ↔ e.Covers t)) : d = e :=
  ext_terms fun _ => ⟨mem_of_covers hd he h, mem_of_covers he hd fun t ht => (h t ht).symm⟩

/-- Formulas with the same value under every term have the same normal form. -/
lemma ofFormula_eq_of_valueIn {g : Formula} (hf : f.isExpanded = true) (hg : g.isExpanded = true)
    (h : ∀ t : Term, f.valueIn t = g.valueIn t) :
    ∃ d, ofFormula f = .ok d ∧ ofFormula g = .ok d := by
  obtain ⟨d, hd⟩ := exists_ofSigned hf false
  obtain ⟨e, he⟩ := exists_ofSigned hg false
  have hde : d = e := by
    refine eq_of_covers (WellFormed.ofSigned hd) (WellFormed.ofSigned he) fun t ht => ?_
    rw [covers_ofSigned ht hd, covers_ofSigned ht he, h t]
  subst hde
  exact ⟨d, ofFormulaIn_eq_ok.2 hd, ofFormulaIn_eq_ok.2 he⟩

end Dnf

end GradedQuery
