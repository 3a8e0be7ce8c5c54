import GradedQuery.Proofs.CaseSplit

/-!
# What the library builds

`Term.Built` and `Dnf.Built` are the terms and normal forms that can be obtained by the library's
own operations: the constants, literals, conjunction, disjunction, removal of a literal,
conversion of a formula, normalization, and taking a normal form apart into its terms.  Each of
these keeps the invariant, so **whatever is built is well-formed** (`Dnf.Built.wellFormed`).

The invariant leaves nothing out: a well-formed term comes back from its own literals
(`Term.WellFormed.ofLiterals?_toList`) and a well-formed normal form from its own terms
(`Dnf.WellFormed.ofTerms_toList`), so that **what is built is exactly what is well-formed**
(`built_iff`).
-/

namespace GradedQuery

mutual

/-- A term that the operations of the library yield. -/
inductive Term.Built : Term → Prop where
  | empty : Term.Built .empty
  | ofLiteral {l : Literal} {t : Term} (h : Term.ofLiteral? l = some t) : Term.Built t
  | ofLiterals {ls : List Literal} {t : Term} (h : Term.ofLiterals? ls = some t) : Term.Built t
  | conjoin {t u w : Term} (ht : Term.Built t) (hu : Term.Built u) (h : t.conjoin? u = some w) :
      Term.Built w
  | without {t : Term} (ht : Term.Built t) (l : Literal) : Term.Built (t.without l)
  | ofDnf {d : Dnf} {t : Term} (hd : Dnf.Built d) (ht : t ∈ d.terms) : Term.Built t

/-- A normal form that the operations of the library yield. -/
inductive Dnf.Built : Dnf → Prop where
  | falsity : Dnf.Built .falsity
  | truth : Dnf.Built .truth
  | ofLiteral (l : Literal) : Dnf.Built (.ofLiteral l)
  | ofTerms {ts : List Term} (h : ∀ t ∈ ts, Term.Built t) : Dnf.Built (.ofTerms ts)
  | or {d e : Dnf} (hd : Dnf.Built d) (he : Dnf.Built e) : Dnf.Built (d.or e)
  | and {d e : Dnf} (hd : Dnf.Built d) (he : Dnf.Built e) : Dnf.Built (d.and e)
  | ofFormula {f : Formula} {d : Dnf} (h : Dnf.ofFormula f = .ok d) : Dnf.Built d
  | normalize {opts : SplitOptions} {naming : Naming} {d e : Dnf} (hd : Dnf.Built d)
      (h : (d.normalize opts naming).outcome = .ok e) : Dnf.Built e

end

mutual

lemma Term.Built.wellFormed {t : Term} : t.Built → t.WellFormed
  | .empty => .empty
  | .ofLiteral h => .ofLiteral? h
  | .ofLiterals h => .ofLiterals? h
  | .conjoin ht hu h => ht.wellFormed.conjoin? hu.wellFormed h
  | .without ht l => ht.wellFormed.without l
  | .ofDnf hd ht => hd.wellFormed.terms _ ht

/-- **Whatever is built is well-formed.** -/
lemma Dnf.Built.wellFormed {d : Dnf} : d.Built → d.WellFormed
  | .falsity => .falsity
  | .truth => .truth
  | .ofLiteral l => .ofLiteral l
  | .ofTerms h => .ofTerms fun t ht => (h t ht).wellFormed
  | .or hd he => hd.wellFormed.or he.wellFormed
  | .and hd he => hd.wellFormed.and he.wellFormed
  | .ofFormula h => .ofFormula h
  | .normalize hd h => (Dnf.of_normalize_eq_ok hd.wellFormed h).1

end

/-! ## Whatever is well-formed is built -/

section

variable {t u : Term} {d : Dnf}

/-- Literals of one well-formed term are conjoined one after the other.  The invariant is that what
has been conjoined is part of the term, so that the next literal does not contradict it. -/
lemma Term.WellFormed.foldlM_conjoin? (ht : t.WellFormed) {ls : List Literal}
    (hls : ∀ l ∈ ls, l ∈ t.literals) (hu : u ⊆ t) :
    ∃ w, ls.foldlM (fun t l => do t.conjoin? (← Term.ofLiteral? l)) u = some w ∧
      ∀ l, l ∈ w.literals ↔ l ∈ u.literals ∨ l ∈ ls := by
  induction ls generalizing u with
  | nil => exact ⟨u, rfl, by simp⟩
  | cons l ls ih =>
      rw [List.forall_mem_cons] at hls
      obtain ⟨htrue, hfalse⟩ := ht.noConstant l hls.1
      have hliteral : Term.ofLiteral? l = some ⟨.singleton l⟩ :=
        Term.ofLiteral?_eq_some.2 (Or.inr (Or.inr ⟨htrue, hfalse, rfl⟩))
      obtain ⟨v, hv, hvt, hvmem⟩ := ht.exists_conjoin?_literal hu hls.1
      obtain ⟨w, hw, hmem⟩ := ih hls.2 hvt
      refine ⟨w, ?_, fun m => ?_⟩
      · rw [List.foldlM_cons, hliteral]
        simpa [hv] using hw
      · rw [hmem m, hvmem m, List.mem_cons, or_assoc]

/-- A well-formed term is the conjunction of its literals. -/
lemma Term.WellFormed.ofLiterals?_toList (ht : t.WellFormed) :
    Term.ofLiterals? t.literals.toList = some t := by
  obtain ⟨w, hw, hmem⟩ := ht.foldlM_conjoin? (fun l hl => hl) t.empty_subset
  have hwt : w = t := by
    refine Term.ext_mem fun l => ?_
    rw [hmem l, or_iff_right (Term.not_mem_empty l)]
    exact Iff.rfl
  rw [Term.ofLiterals?, hw, hwt]

/-- A well-formed normal form is the disjunction of its terms. -/
lemma Dnf.WellFormed.ofTerms_toList (hd : d.WellFormed) : Dnf.ofTerms d.terms.toList = d :=
  Dnf.ext_terms fun _ => Dnf.mem_ofTerms_of_antichain hd.antichain

/-- A term is built exactly if it is well-formed. -/
lemma Term.built_iff_wellFormed : t.Built ↔ t.WellFormed :=
  ⟨Term.Built.wellFormed, fun ht => .ofLiterals ht.ofLiterals?_toList⟩

/-- A normal form is built exactly if it is well-formed. -/
lemma Dnf.built_iff_wellFormed : d.Built ↔ d.WellFormed := by
  refine ⟨Dnf.Built.wellFormed, fun hd => ?_⟩
  rw [← hd.ofTerms_toList]
  exact .ofTerms fun t ht => Term.built_iff_wellFormed.2 (hd.terms t ht)

/-! ## The invariant in full -/

lemma Term.wellFormed_iff :
    t.WellFormed ↔ (∀ l ∈ t.literals, l.complement ∉ t.literals) ∧
      ∀ l ∈ t.literals, l.atom ≠ Formula.trueName ∧ l.atom ≠ Formula.falseName :=
  ⟨fun h => ⟨h.consistent, h.noConstant⟩, fun h => ⟨h.1, h.2⟩⟩

lemma Dnf.wellFormed_iff :
    d.WellFormed ↔ (∀ t ∈ d.terms, t.WellFormed) ∧
      ∀ t ∈ d.terms, ∀ u ∈ d.terms, t ≠ u → t.subset u = false := by
  constructor
  · intro h
    refine ⟨h.terms, fun t ht u hu hne => ?_⟩
    rw [← Bool.not_eq_true, Term.subset_iff]
    exact fun htu => hne (h.antichain t ht u hu htu)
  · rintro ⟨hterms, hnot⟩
    refine ⟨hterms, fun t ht u hu htu => ?_⟩
    by_contra hne
    have hsubset := Term.subset_iff.2 htu
    rw [hnot t ht u hu hne] at hsubset
    cases hsubset

/-- **What the operations yield is exactly what is well-formed.**  A term is built if and only if no
literal stands beside its complement and none is on a constant; a normal form is built if and only
if its terms are of this kind and none of them is inside another. -/
theorem built_iff :
    (∀ t : Term, t.Built ↔
      (∀ l ∈ t.literals, l.complement ∉ t.literals) ∧
        ∀ l ∈ t.literals, l.atom ≠ Formula.trueName ∧ l.atom ≠ Formula.falseName) ∧
    ∀ d : Dnf, d.Built ↔
      (∀ t ∈ d.terms, (∀ l ∈ t.literals, l.complement ∉ t.literals) ∧
        ∀ l ∈ t.literals, l.atom ≠ Formula.trueName ∧ l.atom ≠ Formula.falseName) ∧
      ∀ t ∈ d.terms, ∀ u ∈ d.terms, t ≠ u → t.subset u = false := by
  constructor
  · intro t
    rw [Term.built_iff_wellFormed, Term.wellFormed_iff]
  · intro d
    rw [Dnf.built_iff_wellFormed, Dnf.wellFormed_iff]
    simp only [Term.wellFormed_iff]

end

end GradedQuery
