import GradedQuery.Proofs.LinearRewriting
import GradedQuery.Proofs.TermCount

/-!
# Plain distribution

The conversion to normal forms drops contradictory and covered terms after every connective.  The
plain way drops nothing on the way: with the negations at the atoms it takes **all unions for a
conjunction and all members for a disjunction** (`Formula.distribute`), folds the constants, and
strikes the contradictory terms out at the end (`Formula.plainDnf`).  Its list is longer, repeats
terms and holds covered ones.

* **`Term.exists_subset_unions`** — a term has a union of two terms inside exactly if it has both of
  them inside.  So it makes no difference to what a list covers whether covered terms were dropped
  from it before the unions were taken.
* `Dnf.covers_distribute` — eager and plain conversion cover the same well-formed terms, by
  induction on the formula.  A contradictory term is inside no well-formed one, and neither is a
  union with it.
* **`Formula.ofFormula_eq_plainDnf`** — as a normal form is determined by what it covers, one
  absorption at the end of the plain way gives what the eager one gives.
-/

namespace GradedQuery

variable {t : Term} {ts us : List Term} {l : Literal}

/-! ## The plain way -/

/-- Whether no literal of a term stands beside its complement. -/
def Term.isConsistent (t : Term) : Bool := t.literals.toList.all fun l => !t.contains l.complement

/-- The terms of a literal.  One on a constant is folded: to the empty term if it is true, and to no
term if it is false. -/
def Literal.plainTerms (l : Literal) : List Term :=
  if l.atom = Formula.trueName ∨ l.atom = Formula.falseName then
    if l.negated = decide (l.atom = Formula.trueName) then [] else [.empty]
  else [⟨.singleton l⟩]

/-- All unions of a term of one list with a term of another. -/
def Term.unions (ts us : List Term) : List Term := ts.flatMap fun t => us.map (Dnf.both t)

namespace Formula

/-- The terms of a formula in which only atoms are negated, by plain distribution. -/
def distribute : Formula → List Term
  | .atom name => (Literal.positive name).plainTerms
  | .not (.atom name) => (Literal.negative name).plainTerms
  | .and l r => Term.unions l.distribute r.distribute
  | .or l r => l.distribute ++ r.distribute
  | .not _ | .weightedAnd .. | .weightedOr .. => []

/-- The plain normal form: negations are pushed down, everything is distributed, and the
contradictory terms are struck out at the end. -/
def plainDnf (f : Formula) : List Term :=
  (f.pushNegations false).distribute.filter Term.isConsistent

end Formula

/-! ## Terms inside a term -/

lemma Term.isConsistent_iff :
    t.isConsistent = true ↔ ∀ l ∈ t.literals, l.complement ∉ t.literals := by
  simp only [isConsistent, List.all_eq_true, Bool.not_eq_true', ← Bool.not_eq_true, contains_iff]
  exact Iff.rfl

/-- Folding is what the library does with the constants. -/
lemma Literal.plainTerms_eq (l : Literal) : l.plainTerms = (Term.ofLiteral? l).toList := by
  have hne : Formula.falseName ≠ Formula.trueName := by decide
  rw [plainTerms, Term.ofLiteral?]
  by_cases htrue : l.atom = Formula.trueName
  · cases hneg : l.negated <;> simp [htrue]
  · by_cases hfalse : l.atom = Formula.falseName
    · cases hneg : l.negated <;> simp [hfalse, hne]
    · simp [htrue, hfalse]

lemma Literal.noConstant_of_mem_plainTerms {o : Literal} (h : t ∈ o.plainTerms)
    (hl : l ∈ t.literals) : l.atom ≠ Formula.trueName ∧ l.atom ≠ Formula.falseName := by
  rw [plainTerms_eq, Option.mem_toList] at h
  exact (Term.WellFormed.ofLiteral? h).noConstant l hl

lemma Term.mem_unions : t ∈ unions ts us ↔ ∃ u ∈ ts, ∃ v ∈ us, Dnf.both u v = t := by
  simp only [unions, List.mem_flatMap, List.mem_map]

/-- **A union is inside a term exactly if both its parts are.** -/
lemma Term.exists_subset_unions :
    (∃ w ∈ unions ts us, w ⊆ t) ↔ (∃ u ∈ ts, u ⊆ t) ∧ ∃ v ∈ us, v ⊆ t := by
  constructor
  · rintro ⟨w, hw, hwt⟩
    obtain ⟨u, hu, v, hv, rfl⟩ := mem_unions.1 hw
    refine ⟨⟨u, hu, fun l hl => ?_⟩, ⟨v, hv, fun l hl => ?_⟩⟩
    · exact hwt l (Dnf.mem_both.2 (Or.inl hl))
    · exact hwt l (Dnf.mem_both.2 (Or.inr hl))
  · rintro ⟨⟨u, hu, hut⟩, ⟨v, hv, hvt⟩⟩
    refine ⟨Dnf.both u v, mem_unions.2 ⟨u, hu, v, hv, rfl⟩, fun l hl => ?_⟩
    exact (Dnf.mem_both.1 hl).elim (hut l) (hvt l)

namespace Dnf

variable {d : Dnf} {f : Formula}

/-- **Dropping terms on the way changes nothing about what is covered.** -/
lemma covers_distribute (ht : t.WellFormed) (hf : f.isNegationNormal = true)
    (h : ofSigned false f = .ok d) : d.Covers t ↔ ∃ u ∈ f.distribute, u ⊆ t := by
  induction f generalizing d with
  | atom name =>
      cases h
      rw [Formula.distribute, Literal.plainTerms_eq]
      exact covers_ofTerms
  | not f _ =>
      cases f with
      | atom name =>
          cases h
          rw [Formula.distribute, Literal.plainTerms_eq]
          exact covers_ofTerms
      | _ => cases hf
  | and l r ihl ihr =>
      rw [Formula.isNegationNormal, Bool.and_eq_true] at hf
      obtain ⟨dl, dr, hl, hr, rfl⟩ := ofSigned_and h
      rw [Formula.distribute, Term.exists_subset_unions, ← ihl hf.1 hl, ← ihr hf.2 hr]
      -- pairs that exclude each other were dropped: no well-formed term has them both inside
      exact covers_and ht
  | or l r ihl ihr =>
      rw [Formula.isNegationNormal, Bool.and_eq_true] at hf
      obtain ⟨dl, dr, hl, hr, rfl⟩ := ofSigned_or h
      simp only [Formula.distribute, List.mem_append, or_and_right, exists_or]
      rw [← ihl hf.1 hl, ← ihr hf.2 hr]
      exact covers_or
  | weightedAnd θ₁ θ₂ l r => cases h
  | weightedOr θ₁ θ₂ l r => cases h

end Dnf

namespace Formula

variable {f : Formula}

/-! ## The terms of the plain way -/

/-- Folding leaves no literal on a constant. -/
lemma noConstant_of_mem_distribute (h : t ∈ f.distribute) (hl : l ∈ t.literals) :
    l.atom ≠ trueName ∧ l.atom ≠ falseName := by
  induction f generalizing t with
  | atom name => exact Literal.noConstant_of_mem_plainTerms h hl
  | not f _ =>
      cases f with
      | atom name => exact Literal.noConstant_of_mem_plainTerms h hl
      | _ => cases h
  | and f g ihf ihg =>
      obtain ⟨u, hu, v, hv, rfl⟩ := Term.mem_unions.1 h
      exact (Dnf.mem_both.1 hl).elim (ihf hu) (ihg hv)
  | or f g ihf ihg =>
      rcases List.mem_append.1 h with h | h
      · exact ihf h hl
      · exact ihg h hl
  | weightedAnd θ₁ θ₂ l r => cases h
  | weightedOr θ₁ θ₂ l r => cases h

lemma mem_plainDnf :
    t ∈ f.plainDnf ↔ t ∈ (f.pushNegations false).distribute ∧ t.isConsistent = true :=
  List.mem_filter

/-- What is left in the end is well-formed. -/
lemma wellFormed_of_mem_plainDnf (h : t ∈ f.plainDnf) : t.WellFormed where
  consistent := Term.isConsistent_iff.1 (mem_plainDnf.1 h).2
  noConstant _ := noConstant_of_mem_distribute (mem_plainDnf.1 h).1

/-- A well-formed term has no contradictory one inside, so that nothing is missed in the end. -/
lemma exists_subset_plainDnf (ht : t.WellFormed) :
    (∃ u ∈ f.plainDnf, u ⊆ t) ↔ ∃ u ∈ (f.pushNegations false).distribute, u ⊆ t := by
  constructor
  · rintro ⟨u, hu, hut⟩
    exact ⟨u, (mem_plainDnf.1 hu).1, hut⟩
  · rintro ⟨u, hu, hut⟩
    have hconsistent := Term.isConsistent_iff.2 (ht.of_subset hut).consistent
    exact ⟨u, mem_plainDnf.2 ⟨hu, hconsistent⟩, hut⟩

/-! ## Eager and plain conversion -/

/-- **Absorbing once at the end gives what absorbing after every connective gives.** -/
lemma ofFormula_eq_plainDnf (hf : f.isExpanded = true) :
    Dnf.ofFormula f = .ok (Dnf.ofTerms f.plainDnf) := by
  obtain ⟨d, hd⟩ := Dnf.exists_ofSigned hf false
  have hpushed : Dnf.ofSigned false (f.pushNegations false) = .ok d := by
    rw [Dnf.ofSigned_pushNegations, hd]
  have hsame : d = Dnf.ofTerms f.plainDnf := by
    refine Dnf.eq_of_covers (.ofSigned hd)
      (.ofTerms fun t ht => wellFormed_of_mem_plainDnf ht) fun t ht => ?_
    rw [Dnf.covers_ofTerms, exists_subset_plainDnf ht]
    exact Dnf.covers_distribute ht (isNegationNormal_pushNegations hf false) hpushed
  rw [← hsame]
  exact Dnf.ofFormulaIn_eq_ok.2 hd

/-- **The normal form of a plain formula has exactly the minimal terms of the plain
distribution**: those that no other term of it is inside of. -/
theorem mem_ofFormula_iff_minimal (hf : f.isExpanded = true) :
    ∃ d, Dnf.ofFormula f = .ok d ∧
      ∀ t, t ∈ d.terms ↔ t ∈ f.plainDnf ∧ ∀ u ∈ f.plainDnf, u ⊆ t → u = t := by
  refine ⟨Dnf.ofTerms f.plainDnf, ofFormula_eq_plainDnf hf, fun t => ?_⟩
  exact Dnf.mem_ofTerms

/-- Of five terms two are contradictory and are struck out, and one of the others is covered. -/
theorem mem_ofFormula_iff_minimal_negated :
    let f : Formula := .or
      (.and (.or (.atom "A") (.atom "B")) (.not (.and (.atom "A") (.or (.atom "B") (.not .truth)))))
      (.and (.and (.atom "A") (.not (.atom "B"))) (.atom "C"))
    f.isExpanded = true ∧ (f.pushNegations false).distribute.length = 5 ∧ f.plainDnf.length = 3 ∧
      ∃ d, Dnf.ofFormula f = .ok d ∧ d.size = 2 ∧
        ∀ t, t ∈ d.terms ↔ t ∈ f.plainDnf ∧ ∀ u ∈ f.plainDnf, u ⊆ t → u = t := by
  intro f
  have hexpanded : f.isExpanded = true := rfl
  have hall : (f.pushNegations false).distribute.length = 5 := by decide
  have hleft : f.plainDnf.length = 3 := by decide
  obtain ⟨d, hd, hminimal⟩ := mem_ofFormula_iff_minimal hexpanded
  have hsize : (Dnf.ofFormula f).map Dnf.size = .ok 2 := by cbv
  rw [hd] at hsize
  exact ⟨hexpanded, hall, hleft, d, hd, Except.ok.inj hsize, hminimal⟩

end Formula

end GradedQuery
