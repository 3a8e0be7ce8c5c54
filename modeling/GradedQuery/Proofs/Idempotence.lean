import GradedQuery.Proofs.OverlapFree

/-!
# Normalizing twice

A normal form comes back as a formula, the disjunction of its terms.  **Converting that formula
gives the same normal form again** (`Dnf.ofFormula_toFormula`): the fold over the literals of a term
collects them without a contradiction, as the term is well-formed, and the fold over the terms
collects them without absorbing any, as they are an antichain.  Both need what the operations of
the library keep up, and nothing else comes back unchanged (`Dnf.ofFormula_toFormula_iff`).

So a normalized formula starts the next run as the normal form that ended the first one.  With a
level for every ordinal atom that one is overlap-free, and **the second run returns the formula it
was given** (`Formula.normalize_normalize`).
-/

namespace GradedQuery

namespace Dnf

variable {d e : Dnf} {t u w : Term} {f : Formula} {l : Literal} {a : String} {negated : Bool}

/-! ## A term and its formula -/

lemma and_singleton (h : t.conjoin? u = some w) :
    (⟨.singleton t⟩ : Dnf).and ⟨.singleton u⟩ = ⟨.singleton w⟩ := by
  have hproducts : ([t].flatMap fun t => [u].filterMap t.conjoin?) = [w] := by simp [h]
  exact (congrArg ofTerms hproducts).trans (ofTerms_singleton w)

lemma ofSigned_literal (h : l.atom ≠ Formula.trueName ∧ l.atom ≠ Formula.falseName) :
    ofSigned false l.toFormula = .ok ⟨.singleton ⟨.singleton l⟩⟩ := by
  rw [← ofLiteral_eq h]
  obtain ⟨a, negated⟩ := l
  cases negated <;> rfl

/-- Literals of one well-formed term are collected one after the other.  The invariant is that what
has been collected is part of the term, so that the next literal does not contradict it. -/
lemma ofSigned_foldl_and (ht : t.WellFormed) {ls : List Literal} (hls : ∀ l ∈ ls, l ∈ t.literals)
    (hf : ofSigned false f = .ok ⟨.singleton u⟩) (hu : u ⊆ t) :
    ∃ w, ofSigned false ((ls.map Literal.toFormula).foldl .and f) = .ok ⟨.singleton w⟩ ∧
      ∀ l, l ∈ w.literals ↔ l ∈ u.literals ∨ l ∈ ls := by
  induction ls generalizing f u with
  | nil => exact ⟨u, hf, fun l => by simp⟩
  | cons l ls ih =>
      rw [List.forall_mem_cons] at hls
      obtain ⟨v, hv, hvt, hvmem⟩ := ht.exists_conjoin?_literal hu hls.1
      have hstep : ofSigned false (.and f l.toFormula) = .ok ⟨.singleton v⟩ := by
        rw [ofSigned, hf, ofSigned_literal (ht.noConstant l hls.1), ← and_singleton hv]
        rfl
      obtain ⟨w, hw, hmem⟩ := ih hls.2 hstep hvt
      refine ⟨w, hw, fun m => ?_⟩
      rw [hmem m, hvmem m, List.mem_cons, or_assoc]

/-- The formula of a term has that term for its normal form. -/
lemma ofSigned_term (ht : t.WellFormed) : ofSigned false t.toFormula = .ok ⟨.singleton t⟩ := by
  cases hliterals : t.literals.toList with
  | nil =>
      have hempty : t = .empty := Term.ext_mem fun l => by
        rw [OrderedSet.mem_def, hliterals]
        simp
      rw [hempty, ← ofTerms_singleton]
      rfl
  | cons l ls =>
      have hmem : ∀ m, m ∈ t.literals ↔ m = l ∨ m ∈ ls := fun m => by
        rw [OrderedSet.mem_def, hliterals, List.mem_cons]
      have hl : l ∈ t.literals := (hmem l).2 (Or.inl rfl)
      obtain ⟨w, hw, hwmem⟩ := ofSigned_foldl_and ht (fun m hm => (hmem m).2 (Or.inr hm))
        (ofSigned_literal (ht.noConstant l hl)) (OrderedSet.forall_mem_singleton.2 hl)
      have hwt : w = t := Term.ext_mem fun m => by
        rw [hwmem m, hmem m, OrderedSet.mem_singleton]
      rw [Term.toFormula, hliterals, ← hwt]
      exact hw

/-! ## A normal form and its formula -/

/-- A disjunction of parts of a well-formed normal form keeps all their terms. -/
lemma WellFormed.mem_or_of_parts {p q : Dnf} (hd : d.WellFormed) (hp : ∀ t ∈ p.terms, t ∈ d.terms)
    (hq : ∀ t ∈ q.terms, t ∈ d.terms) : t ∈ (p.or q).terms ↔ t ∈ p.terms ∨ t ∈ q.terms := by
  have hparts : ∀ u ∈ p.terms.toList ++ q.terms.toList, u ∈ d.terms := by
    intro u hu
    exact (List.mem_append.1 hu).elim (hp u) (hq u)
  rw [Dnf.or, mem_ofTerms_of_antichain, List.mem_append]
  · exact Iff.rfl
  · exact fun u hu w hw => hd.antichain u (hparts u hu) w (hparts w hw)

/-- Terms of one well-formed normal form are collected one after the other.  The invariant is that
what has been collected is part of the normal form, so that nothing is absorbed. -/
lemma ofSigned_foldl_or (he : e.WellFormed) {ts : List Term} (hts : ∀ t ∈ ts, t ∈ e.terms)
    (hf : ofSigned false f = .ok d) (hd : ∀ t ∈ d.terms, t ∈ e.terms) :
    ∃ p, ofSigned false ((ts.map Term.toFormula).foldl .or f) = .ok p ∧
      ∀ t, t ∈ p.terms ↔ t ∈ d.terms ∨ t ∈ ts := by
  induction ts generalizing f d with
  | nil => exact ⟨d, hf, fun t => by simp⟩
  | cons t ts ih =>
      rw [List.forall_mem_cons] at hts
      have hte : ∀ u ∈ (⟨.singleton t⟩ : Dnf).terms, u ∈ e.terms :=
        OrderedSet.forall_mem_singleton.2 hts.1
      have hmem : ∀ u, u ∈ (d.or ⟨.singleton t⟩).terms ↔ u ∈ d.terms ∨ u = t := fun u => by
        rw [he.mem_or_of_parts hd hte, OrderedSet.mem_singleton]
      have hstep : ofSigned false (.or f t.toFormula) = .ok (d.or ⟨.singleton t⟩) := by
        rw [ofSigned, hf, ofSigned_term (he.terms t hts.1)]
        rfl
      have hpart : ∀ u ∈ (d.or ⟨.singleton t⟩).terms, u ∈ e.terms := by
        intro u hu
        rcases (hmem u).1 hu with hu | rfl
        · exact hd u hu
        · exact hts.1
      obtain ⟨p, hp, hpmem⟩ := ih hts.2 hstep hpart
      refine ⟨p, hp, fun u => ?_⟩
      rw [hpmem u, hmem u, List.mem_cons, or_assoc]

/-- **Converting the formula of a normal form gives the normal form again.** -/
lemma ofFormula_toFormula (hd : d.WellFormed) : ofFormula d.toFormula = .ok d := by
  rw [ofFormula, ofFormulaIn_eq_ok]
  cases hterms : d.terms.toList with
  | nil =>
      have hfalsity : d = falsity := ext_terms fun t => by
        rw [OrderedSet.mem_def, hterms]
        simp [falsity]
      have hconstant : ofSigned false falsity.toFormula = .ok (ofTerms []) := rfl
      rw [hfalsity, hconstant, ofTerms_nil]
  | cons t ts =>
      have hmem : ∀ u, u ∈ d.terms ↔ u = t ∨ u ∈ ts := fun u => by
        rw [OrderedSet.mem_def, hterms, List.mem_cons]
      have ht : t ∈ d.terms := (hmem t).2 (Or.inl rfl)
      obtain ⟨e, he, hemem⟩ := ofSigned_foldl_or hd (fun u hu => (hmem u).2 (Or.inr hu))
        (ofSigned_term (hd.terms t ht)) (OrderedSet.forall_mem_singleton.2 ht)
      have hed : e = d := ext_terms fun u => by
        rw [hemem u, hmem u, OrderedSet.mem_singleton]
      rw [toFormula, hterms, ← hed]
      exact he

/-- **A normal form comes back from its formula exactly if the operations of the library yield
it.**  The one without terms goes through `FALSE`, and the one with the empty term only through
`TRUE`. -/
theorem ofFormula_toFormula_iff :
    (∀ d : Dnf, ofFormula d.toFormula = .ok d ↔ d.Built) ∧
      (falsity.toFormula = .falsity ∧ ofFormula .falsity = .ok falsity) ∧
      truth.toFormula = .truth ∧ ofFormula .truth = .ok truth := by
  have htrip : ∀ d : Dnf, ofFormula d.toFormula = .ok d ↔ d.Built := by
    intro d
    constructor
    · exact Built.ofFormula
    · exact fun hd => ofFormula_toFormula hd.wellFormed
  have hfalsity : falsity.toFormula = .falsity := rfl
  have htruth : truth.toFormula = .truth := rfl
  refine ⟨htrip, ⟨hfalsity, ?_⟩, htruth, ?_⟩
  · rw [← hfalsity]
    exact (htrip falsity).2 .falsity
  · rw [← htruth]
    exact (htrip truth).2 .truth

/-! ## Atoms of a formula and of its normal form -/

variable {opts : SplitOptions} {naming : Naming}

lemma mentions_of_mentions_meet (h : (meet negated d e).Mentions a) :
    d.Mentions a ∨ e.Mentions a := by
  cases negated with
  | false => exact mentions_of_mentions_and h
  | true => exact mentions_of_mentions_or h

lemma mentions_of_mentions_join (h : (join negated d e).Mentions a) :
    d.Mentions a ∨ e.Mentions a := by
  cases negated with
  | false => exact mentions_of_mentions_or h
  | true => exact mentions_of_mentions_and h

/-- A normal form mentions names of its formula only. -/
lemma mem_names_of_mentions (h : ofSigned negated f = .ok d) (ha : d.Mentions a) :
    a ∈ f.names := by
  induction f generalizing negated d with
  | atom name =>
      cases h
      rw [mentions_of_mentions_ofLiteral ha]
      exact List.mem_singleton.2 rfl
  | not f ih => exact ih h ha
  | and l r ihl ihr =>
      obtain ⟨dl, dr, hl, hr, rfl⟩ := ofSigned_and h
      rw [Formula.names, List.mem_append]
      exact (mentions_of_mentions_meet ha).imp (ihl hl) (ihr hr)
  | or l r ihl ihr =>
      obtain ⟨dl, dr, hl, hr, rfl⟩ := ofSigned_or h
      rw [Formula.names, List.mem_append]
      exact (mentions_of_mentions_join ha).imp (ihl hl) (ihr hr)
  | weightedAnd θ₁ θ₂ l r => cases h
  | weightedOr θ₁ θ₂ l r => cases h

end Dnf

namespace Formula

variable {f : Formula} {opts : SplitOptions} {naming : Naming} {d e : Dnf}

/-- The names in a formula that are on an ordinal attribute, the constants apart. -/
def ordinalAtoms (opts : SplitOptions) (naming : Naming) (f : Formula) : OrderedSet String :=
  f.atoms.filter fun a => a ≠ trueName ∧ a ≠ falseName ∧ naming a ∈ opts.ordinal

/-- The normal form of a formula has no more ordinal atoms than the formula. -/
lemma ordinalAtoms_ofFormula_le (h : Dnf.ofFormula f = .ok d) :
    (d.ordinalAtoms opts naming).size ≤ (f.ordinalAtoms opts naming).size := by
  refine OrderedSet.size_le_of_subset fun a ha => ?_
  obtain ⟨hmentions, hordinal⟩ := Dnf.mem_ordinalAtoms.1 ha
  have hname := Dnf.mem_names_of_mentions (Dnf.ofFormulaIn_eq_ok.1 h) hmentions
  obtain ⟨l, hl, rfl⟩ := hmentions
  obtain ⟨htrue, hfalse⟩ := (Dnf.WellFormed.ofFormula h).noConstant hl
  exact OrderedSet.mem_filter.2 ⟨mem_atoms.2 hname, decide_eq_true ⟨htrue, hfalse, hordinal⟩⟩

/-! ## Idempotence -/

/-- The formula of a normal form without overlaps is normalized already. -/
lemma normalize_toFormula (he : e.WellFormed) (hfree : e.isOverlapFree opts naming = true) :
    e.toFormula.normalize opts naming = ⟨.ok e.toFormula, [.alreadyOverlapFree e.size]⟩ := by
  rw [normalize_of_ofFormula (Dnf.ofFormula_toFormula he), Dnf.normalize_of_isOverlapFree hfree]
  rfl

/-- **Normalizing twice is normalizing once**, with a level for every ordinal atom: the second run
succeeds, finds no overlap and returns the very formula that the first one gave. -/
theorem normalize_normalize (hf : f.isExpanded = true)
    (hdepth : (f.ordinalAtoms opts naming).size ≤ opts.maxDepth) :
    ∃ g terms, (f.normalize opts naming).outcome = .ok g ∧
      g.normalize opts naming = ⟨.ok g, [.alreadyOverlapFree terms]⟩ := by
  obtain ⟨d, hsigned⟩ := Dnf.exists_ofSigned hf false
  have hd : Dnf.ofFormula f = .ok d := Dnf.ofFormulaIn_eq_ok.2 hsigned
  have hwf : d.WellFormed := Dnf.WellFormed.ofFormula hd
  have hlevels : (d.ordinalAtoms opts naming).size ≤ opts.maxDepth :=
    Nat.le_trans (ordinalAtoms_ofFormula_le hd) hdepth
  obtain ⟨e, he, hewf, hfree⟩ : ∃ e, (d.normalize opts naming).outcome = .ok e ∧ e.WellFormed ∧
      e.isOverlapFree opts naming = true := by
    rcases Dnf.normalize_cases opts naming d with ⟨hfree, hnorm⟩ | ⟨e, events, hnorm, hrun⟩
    · exact ⟨d, by rw [hnorm], hwf, hfree⟩
    · exact ⟨e, by rw [hnorm], hrun.wellFormed hwf,
        Dnf.isOverlapFree_iff.2 (hrun.separated hwf (hrun.not_exhausted hlevels))⟩
  exact ⟨e.toFormula, e.size, outcome_normalize_eq_ok.2 ⟨d, e, hd, he, rfl⟩,
    normalize_toFormula hewf hfree⟩

/-- Two buckets of a price, with a level for each. -/
theorem normalize_normalize_price :
    let f : Formula := .or (.and (.atom "price__low") (.atom "A"))
      (.and (.atom "price__high") (.not (.atom "B")))
    let opts : SplitOptions := ⟨.singleton "price", 2⟩
    f.isExpanded = true ∧ (f.ordinalAtoms opts defaultNaming).size ≤ 2 ∧
      ∃ g terms, (f.normalize opts defaultNaming).outcome = .ok g ∧
        g.normalize opts defaultNaming = ⟨.ok g, [.alreadyOverlapFree terms]⟩ := by
  intro f opts
  have hdepth : (f.ordinalAtoms opts defaultNaming).size ≤ 2 := by decide
  exact ⟨rfl, hdepth, normalize_normalize rfl hdepth⟩

end Formula

end GradedQuery
