import GradedQuery.Proofs.CaseSplit
import GradedQuery.Proofs.PartialTruth

/-!
# The laws of lattices leave the normal form alone

A query can be written in many ways that differ by the order of its parts, by brackets, by
repetitions, by multiplying out or by pushing negations about.  The rewriting steps are stated for a
connective and its dual at once.

* `LinearLaw` — the laws that mention no part twice on a side: commutativity, associativity, double
  negation, De Morgan, and the constants as units and annihilators.
* `LatticeLaw` — together with idempotence, absorption and distributivity, the laws of bounded
  distributive lattices with De Morgan's negation.  That a formula and its negation exclude each
  other, or that one of them holds, is not among them.
* `Congruence` — rewriting by a set of laws, in either direction and anywhere below the plain
  connectives.

Every one of these laws holds in the three-valued tables, so **rewriting by lattice laws changes
the value of a formula under no term** (`Congruence.valueIn_eq`), and with it neither the normal
form nor the normalized formula.
-/

namespace GradedQuery

namespace Connective

variable (c : Connective) (x y z : Option Bool)

/-- The connective that De Morgan's laws turn this one into. -/
def dual : Connective → Connective
  | .and => .or
  | .or => .and

/-- The constant that adds nothing to the other side. -/
def unit : Connective → Formula
  | .and => .truth
  | .or => .falsity

/-! ## The laws in the three-valued tables -/

lemma decisive_dual : c.dual.decisive = !c.decisive := by cases c <;> rfl

lemma table_comm : c.table x y = c.table y x := by
  cases c <;> rcases x with _ | _ | _ <;> rcases y with _ | _ | _ <;> rfl

lemma table_assoc : c.table (c.table x y) z = c.table x (c.table y z) := by
  cases c <;> rcases x with _ | _ | _ <;> rcases y with _ | _ | _ <;> rcases z with _ | _ | _ <;>
    rfl

lemma table_self : c.table x x = x := by
  cases c <;> rcases x with _ | _ | _ <;> rfl

lemma table_absorb : c.table x (c.dual.table x y) = x := by
  cases c <;> rcases x with _ | _ | _ <;> rcases y with _ | _ | _ <;> rfl

lemma table_distrib :
    c.table x (c.dual.table y z) = c.dual.table (c.table x y) (c.table x z) := by
  cases c <;> rcases x with _ | _ | _ <;> rcases y with _ | _ | _ <;> rcases z with _ | _ | _ <;>
    rfl

lemma map_not_table :
    (c.table x y).map (!·) = c.dual.table (x.map (!·)) (y.map (!·)) := by
  cases c <;> rcases x with _ | _ | _ <;> rcases y with _ | _ | _ <;> rfl

lemma table_unit : c.table x (some (!c.decisive)) = x := by
  cases c <;> rcases x with _ | _ | _ <;> rfl

lemma table_decisive : c.table x (some c.decisive) = some c.decisive := by
  cases c <;> rcases x with _ | _ | _ <;> rfl

end Connective

namespace Formula

variable {f g : Formula}

/-! ## Rewriting -/

/-- The laws in which no part occurs twice on a side. -/
inductive LinearLaw : Formula → Formula → Prop where
  | comm (c : Connective) (f g : Formula) : LinearLaw (c.join f g) (c.join g f)
  | assoc (c : Connective) (f g h : Formula) :
      LinearLaw (c.join (c.join f g) h) (c.join f (c.join g h))
  | doubleNegation (f : Formula) : LinearLaw (.not (.not f)) f
  | deMorgan (c : Connective) (f g : Formula) :
      LinearLaw (.not (c.join f g)) (c.dual.join (.not f) (.not g))
  | unit (c : Connective) (f : Formula) : LinearLaw (c.join f c.unit) f
  | annihilator (c : Connective) (f : Formula) : LinearLaw (c.join f c.dual.unit) c.dual.unit

/-- The laws of bounded distributive lattices with De Morgan's negation. -/
inductive LatticeLaw : Formula → Formula → Prop where
  | linear {f g : Formula} (h : LinearLaw f g) : LatticeLaw f g
  | idempotence (c : Connective) (f : Formula) : LatticeLaw (c.join f f) f
  | absorption (c : Connective) (f g : Formula) : LatticeLaw (c.join f (c.dual.join f g)) f
  | distributivity (c : Connective) (f g h : Formula) :
      LatticeLaw (c.join f (c.dual.join g h)) (c.dual.join (c.join f g) (c.join f h))

/-- Rewriting by a set of laws: the smallest congruence of the plain connectives that contains
them. -/
inductive Congruence (Law : Formula → Formula → Prop) : Formula → Formula → Prop where
  | law {f g : Formula} (h : Law f g) : Congruence Law f g
  | refl (f : Formula) : Congruence Law f f
  | symm {f g : Formula} (h : Congruence Law f g) : Congruence Law g f
  | trans {f g h : Formula} (hfg : Congruence Law f g) (hgh : Congruence Law g h) :
      Congruence Law f h
  | not {f g : Formula} (h : Congruence Law f g) : Congruence Law (.not f) (.not g)
  | join (c : Connective) {l l' r r' : Formula} (hl : Congruence Law l l')
      (hr : Congruence Law r r') : Congruence Law (c.join l r) (c.join l' r')

/-! ## The laws under a term -/

section

variable (t : Term)

lemma valueIn_not (f : Formula) : (Formula.not f).valueIn t = (f.valueIn t).map (!·) := rfl

lemma valueIn_join (c : Connective) (l r : Formula) :
    (c.join l r).valueIn t = c.table (l.valueIn t) (r.valueIn t) := by cases c <;> rfl

lemma valueIn_unit (c : Connective) : c.unit.valueIn t = some (!c.decisive) := by
  cases c <;> rfl

lemma LinearLaw.valueIn_eq (h : LinearLaw f g) : f.valueIn t = g.valueIn t := by
  cases h with
  | comm c f g => simp only [valueIn_join, c.table_comm (f.valueIn t)]
  | assoc c f g h => simp only [valueIn_join, c.table_assoc]
  | doubleNegation f => simp [valueIn_not, Function.comp_def]
  | deMorgan c f g => simp only [valueIn_not, valueIn_join, c.map_not_table]
  | unit c f => rw [valueIn_join, valueIn_unit, c.table_unit]
  | annihilator c f =>
      rw [valueIn_join, valueIn_unit, c.decisive_dual, Bool.not_not, c.table_decisive]

lemma LatticeLaw.valueIn_eq (h : LatticeLaw f g) : f.valueIn t = g.valueIn t := by
  cases h with
  | linear h => exact h.valueIn_eq t
  | idempotence c f => rw [valueIn_join, c.table_self]
  | absorption c f g => simp only [valueIn_join, c.table_absorb]
  | distributivity c f g h => simp only [valueIn_join, c.table_distrib]

/-- **Rewriting by lattice laws changes the value of a formula under no term.**  The steps may pass
through weighted connectives, which are open on both sides. -/
lemma Congruence.valueIn_eq (h : Congruence LatticeLaw f g) : f.valueIn t = g.valueIn t := by
  induction h with
  | law h => exact h.valueIn_eq t
  | refl f => rfl
  | symm _ ih => exact ih.symm
  | trans _ _ ihfg ihgh => exact ihfg.trans ihgh
  | not _ ih => rw [valueIn_not, valueIn_not, ih]
  | join c _ _ ihl ihr => rw [valueIn_join, valueIn_join, ihl, ihr]

end

/-! ## Normal forms of rewritten formulas -/

/-- **Formulas that lattice laws turn into each other have one normal form and are normalized to
the same formula**, with the same events on the way. -/
theorem normalize_eq_of_congruence (h : Congruence LatticeLaw f g) (hf : f.isExpanded = true)
    (hg : g.isExpanded = true) :
    (∃ d, Dnf.ofFormula f = .ok d ∧ Dnf.ofFormula g = .ok d) ∧
      ∀ opts naming, ∃ e, (f.normalize opts naming).outcome = .ok e ∧
        g.normalize opts naming = f.normalize opts naming := by
  obtain ⟨d, hfd, hgd⟩ := Dnf.ofFormula_eq_of_valueIn hf hg fun t => h.valueIn_eq t
  refine ⟨⟨d, hfd, hgd⟩, fun opts naming => ?_⟩
  obtain ⟨e, he, -, -⟩ := Dnf.exists_normalize opts naming (Dnf.WellFormed.ofFormula hfd)
  refine ⟨e.toFormula, outcome_normalize_eq_ok.2 ⟨d, e, hfd, he, rfl⟩, ?_⟩
  rw [normalize_of_ofFormula hfd, normalize_of_ofFormula hgd]

/-- A negated conjunction in brackets, multiplied out. -/
theorem normalize_eq_of_congruence_multiplied :
    let f : Formula := .and (.atom "A")
      (.or (.atom "price__low") (.not (.and (.atom "price__high") (.atom "A"))))
    let g : Formula := .or (.and (.atom "A") (.atom "price__low"))
      (.or (.and (.atom "A") (.not (.atom "price__high"))) (.and (.atom "A") (.not (.atom "A"))))
    Congruence LatticeLaw f g ∧ f.isExpanded = true ∧ g.isExpanded = true ∧
      (∃ d, Dnf.ofFormula f = .ok d ∧ Dnf.ofFormula g = .ok d) ∧
      ∀ opts naming, ∃ e, (f.normalize opts naming).outcome = .ok e ∧
        g.normalize opts naming = f.normalize opts naming := by
  intro f g
  have hpushed : Congruence LatticeLaw f (.and (.atom "A") (.or (.atom "price__low")
      (.or (.not (.atom "price__high")) (.not (.atom "A"))))) :=
    .join .and (.refl _) (.join .or (.refl _) (.law (.linear (.deMorgan .and _ _))))
  have hmultiplied : Congruence LatticeLaw (.and (.atom "A") (.or (.atom "price__low")
      (.or (.not (.atom "price__high")) (.not (.atom "A"))))) g :=
    .trans (.law (.distributivity .and _ _ _))
      (.join .or (.refl _) (.law (.distributivity .and _ _ _)))
  have h : Congruence LatticeLaw f g := hpushed.trans hmultiplied
  exact ⟨h, rfl, rfl, normalize_eq_of_congruence h rfl rfl⟩

end Formula

end GradedQuery
