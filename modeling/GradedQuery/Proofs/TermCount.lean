import GradedQuery.Proofs.Idempotence
import GradedQuery.Proofs.OpenAtoms
import GradedQuery.Proofs.PartialTruth
import Mathlib

/-!
# How many terms a normal form has

A conjunction of normal forms has a term for every pair of terms, as far as nothing is absorbed or
contradictory.  Between normal forms without common atoms nothing is, so that **the numbers of
terms are added by a disjunction and multiplied by a conjunction** (`HasTerms.or`, `HasTerms.and`).
A formula that is read once has the number of terms that follows from this
(`hasTerms_ofSigned`), and a short formula may have a long normal form.

On the other hand a well-formed term says of each atom that it holds, that it does not, or nothing.
So there are **at most `3 ^ n` terms over `n` atoms** (`WellFormed.size_le_pow`), each with at most
`n` literals.
-/

namespace GradedQuery

namespace Dnf

variable {d e : Dnf} {t u v w : Term} {ts : List Term} {m n : Nat}

/-- Where no term is inside another, absorption keeps the number of terms. -/
lemma size_ofTerms (hnodup : ts.Nodup) (h : ∀ t ∈ ts, ∀ u ∈ ts, t ⊆ u → t = u) :
    (ofTerms ts).size = ts.length := by
  have hperm : (ofTerms ts).terms.toList.Perm ts :=
    (List.perm_ext_iff_of_nodup (OrderedSet.nodup _) hnodup).2 fun _ =>
      mem_ofTerms_of_antichain h
  exact hperm.length_eq

/-! ## Normal forms without common atoms -/

/-- Whether no atom is mentioned by both of two normal forms. -/
def Apart (d e : Dnf) : Prop := ∀ a, d.Mentions a → ¬ e.Mentions a

namespace Apart

lemma symm (h : d.Apart e) : e.Apart d := fun a he hd => h a hd he

lemma atom_ne (h : d.Apart e) (ht : t ∈ d.terms) (hu : u ∈ e.terms) {l m : Literal}
    (hl : l ∈ t.literals) (hm : m ∈ u.literals) : l.atom ≠ m.atom := by
  intro heq
  exact h l.atom (mentions_of_mem ht hl) (heq ▸ mentions_of_mem hu hm)

end Apart

/-- The term with the literals of two terms. -/
def both (t u : Term) : Term := ⟨t.literals.union u.literals⟩

lemma mem_both {l : Literal} : l ∈ (both t u).literals ↔ l ∈ t.literals ∨ l ∈ u.literals :=
  OrderedSet.mem_union

namespace Apart

lemma conjoin? (h : d.Apart e) (ht : t ∈ d.terms) (hu : u ∈ e.terms) :
    t.conjoin? u = some (both t u) := by
  refine Term.conjoin?_eq_some.2 ⟨?_, fun l => mem_both⟩
  rw [← Bool.not_eq_true, Term.excludes_iff]
  rintro ⟨l, hl, hlc⟩
  exact h.atom_ne ht hu hl hlc rfl

/-- A pair of terms is inside another pair only side by side. -/
lemma subset_of_both_subset (h : d.Apart e) (ht : t ∈ d.terms) (hu : u ∈ e.terms)
    (hv : v ∈ d.terms) (hw : w ∈ e.terms) (hsub : both t u ⊆ both v w) : t ⊆ v ∧ u ⊆ w := by
  constructor
  · intro l hl
    rcases mem_both.1 (hsub l (mem_both.2 (Or.inl hl))) with hlv | hlw
    · exact hlv
    · exact absurd rfl (h.atom_ne ht hw hl hlw)
  · intro l hl
    rcases mem_both.1 (hsub l (mem_both.2 (Or.inr hl))) with hlv | hlw
    · exact absurd rfl (h.atom_ne hv hu hlv hl)
    · exact hlw

/-- No pair is dropped, so that a conjunction is made of all of them. -/
lemma products_eq (h : d.Apart e) :
    (d.terms.toList.flatMap fun t => e.terms.toList.filterMap t.conjoin?) =
      (d.terms.toList ×ˢ e.terms.toList).map fun p => both p.1 p.2 := by
  have hpairs : ∀ t ∈ d.terms,
      e.terms.toList.filterMap t.conjoin? = e.terms.toList.map (both t) := by
    intro t ht
    rw [← List.filterMap_eq_map]
    exact List.filterMap_congr fun u hu => h.conjoin? ht hu
  have hproduct : d.terms.toList ×ˢ e.terms.toList =
      d.terms.toList.flatMap fun t => e.terms.toList.map (Prod.mk t) := rfl
  rw [List.flatMap_congr hpairs, hproduct, List.map_flatMap]
  simp only [List.map_map, Function.comp_def]

end Apart

/-- Whether a normal form has `n` terms, each of them with a literal.  Only `TRUE` has a term
without one. -/
structure HasTerms (d : Dnf) (n : Nat) : Prop where
  wellFormed : d.WellFormed
  exists_literal : ∀ t ∈ d.terms, ∃ l, l ∈ t.literals
  size_eq : d.size = n

namespace HasTerms

lemma not_subset (hd : d.HasTerms m) (h : d.Apart e) (ht : t ∈ d.terms) (hu : u ∈ e.terms) :
    ¬ t ⊆ u := by
  intro hsub
  obtain ⟨l, hl⟩ := hd.exists_literal t ht
  exact h.atom_ne ht hu hl (hsub l hl) rfl

/-- **Terms are added by a disjunction.** -/
lemma or (hd : d.HasTerms m) (he : e.HasTerms n) (h : d.Apart e) : (d.or e).HasTerms (m + n) where
  wellFormed := hd.wellFormed.or he.wellFormed
  exists_literal t ht := (mem_or ht).elim (hd.exists_literal t) (he.exists_literal t)
  size_eq := by
    have hnodup : (d.terms.toList ++ e.terms.toList).Nodup :=
      List.nodup_append'.2 ⟨d.terms.nodup, e.terms.nodup, fun t ht ht' =>
        hd.not_subset h ht ht' t.subset_refl⟩
    rw [Dnf.or, size_ofTerms hnodup, List.length_append, ← hd.size_eq, ← he.size_eq]
    · rfl
    · intro t ht u hu htu
      rcases List.mem_append.1 ht with ht | ht <;> rcases List.mem_append.1 hu with hu | hu
      · exact hd.wellFormed.antichain t ht u hu htu
      · exact absurd htu (hd.not_subset h ht hu)
      · exact absurd htu (he.not_subset h.symm ht hu)
      · exact he.wellFormed.antichain t ht u hu htu

/-- **Terms are multiplied by a conjunction.** -/
lemma and (hd : d.HasTerms m) (he : e.HasTerms n) (h : d.Apart e) :
    (d.and e).HasTerms (m * n) where
  wellFormed := hd.wellFormed.and he.wellFormed
  exists_literal w hw := by
    obtain ⟨t, ht, u, -, htu⟩ := mem_and hw
    obtain ⟨l, hl⟩ := hd.exists_literal t ht
    exact ⟨l, ((Term.conjoin?_eq_some.1 htu).2 l).2 (Or.inl hl)⟩
  size_eq := by
    -- no pair is inside another one, so that no two are equal and none is absorbed
    have hinside : ∀ p ∈ d.terms.toList ×ˢ e.terms.toList,
        ∀ q ∈ d.terms.toList ×ˢ e.terms.toList, both p.1 p.2 ⊆ both q.1 q.2 → p = q := by
      intro p hp q hq hsub
      obtain ⟨hp₁, hp₂⟩ := List.mem_product.1 hp
      obtain ⟨hq₁, hq₂⟩ := List.mem_product.1 hq
      obtain ⟨hleft, hright⟩ := h.subset_of_both_subset hp₁ hp₂ hq₁ hq₂ hsub
      exact Prod.ext (hd.wellFormed.antichain _ hp₁ _ hq₁ hleft)
        (he.wellFormed.antichain _ hp₂ _ hq₂ hright)
    have hnodup : ((d.terms.toList ×ˢ e.terms.toList).map fun p => both p.1 p.2).Nodup :=
      (d.terms.nodup.product e.terms.nodup).map_on fun p hp q hq heq =>
        hinside p hp q hq (heq ▸ Term.subset_refl _)
    rw [Dnf.and, h.products_eq, size_ofTerms hnodup, List.length_map, List.length_product,
      ← hd.size_eq, ← he.size_eq]
    · rfl
    · intro t ht u hu htu
      obtain ⟨p, hp, rfl⟩ := List.mem_map.1 ht
      obtain ⟨q, hq, rfl⟩ := List.mem_map.1 hu
      rw [hinside p hp q hq htu]

/-- A literal that speaks about no constant is one term. -/
lemma ofLiteral {l : Literal} (h : l.atom ≠ Formula.trueName ∧ l.atom ≠ Formula.falseName) :
    (ofLiteral l).HasTerms 1 where
  wellFormed := WellFormed.ofLiteral l
  exists_literal t ht := by
    rw [ofLiteral_eq h] at ht
    rw [OrderedSet.mem_singleton.1 ht]
    exact ⟨l, OrderedSet.mem_singleton.2 rfl⟩
  size_eq := by
    rw [ofLiteral_eq h]
    rfl

end HasTerms

end Dnf

/-! ## Formulas that are read once -/

/-- The number of terms of a formula, or of its negation, in which no atom stands in two places:
connectives add and multiply, and change places under a negation. -/
def Formula.termCount (negated : Bool) : Formula → Nat
  | .atom _ => 1
  | .not f => f.termCount (!negated)
  | .and l r =>
    if negated then l.termCount negated + r.termCount negated
    else l.termCount negated * r.termCount negated
  | .or l r =>
    if negated then l.termCount negated * r.termCount negated
    else l.termCount negated + r.termCount negated
  | .weightedAnd .. | .weightedOr .. => 0

namespace Dnf

variable {d e : Dnf} {f l r : Formula} {negated : Bool} {a : String}

lemma mem_openAtoms_of_mentions (h : ofSigned negated f = .ok d) (ha : d.Mentions a) :
    a ∈ f.openAtoms := by
  have hname := mem_names_of_mentions h ha
  obtain ⟨l, hl, rfl⟩ := ha
  exact Formula.mem_openAtoms.2 ⟨hname, (WellFormed.ofSigned h).noConstant hl⟩

lemma apart_of_disjoint (hl : ofSigned negated l = .ok d) (hr : ofSigned negated r = .ok e)
    (h : Disjoint l.openAtoms r.openAtoms) : d.Apart e :=
  fun _ hd he => Finset.disjoint_left.1 h (mem_openAtoms_of_mentions hl hd)
    (mem_openAtoms_of_mentions hr he)

/-- **The normal form of a formula that is read once, and has no constants, has as many terms as
its connectives say.** -/
lemma hasTerms_ofSigned (honce : f.ReadOnce)
    (hopen : ∀ a ∈ f.names, a ≠ Formula.trueName ∧ a ≠ Formula.falseName)
    (h : ofSigned negated f = .ok d) : d.HasTerms (f.termCount negated) := by
  induction f generalizing negated d with
  | atom name =>
      cases h
      exact HasTerms.ofLiteral (hopen name List.mem_cons_self)
  | not f ih => exact ih honce hopen h
  | and l r ihl ihr =>
      obtain ⟨hl, hr, hdisjoint⟩ := (Formula.readOnce_join .and).1 honce
      obtain ⟨hlopen, hropen⟩ := List.forall_mem_append.1 hopen
      obtain ⟨dl, dr, hdl, hdr, rfl⟩ := ofSigned_and h
      have hapart := apart_of_disjoint hdl hdr hdisjoint
      cases negated with
      | false => exact (ihl hl hlopen hdl).and (ihr hr hropen hdr) hapart
      | true => exact (ihl hl hlopen hdl).or (ihr hr hropen hdr) hapart
  | or l r ihl ihr =>
      obtain ⟨hl, hr, hdisjoint⟩ := (Formula.readOnce_join .or).1 honce
      obtain ⟨hlopen, hropen⟩ := List.forall_mem_append.1 hopen
      obtain ⟨dl, dr, hdl, hdr, rfl⟩ := ofSigned_or h
      have hapart := apart_of_disjoint hdl hdr hdisjoint
      cases negated with
      | false => exact (ihl hl hlopen hdl).or (ihr hr hropen hdr) hapart
      | true => exact (ihl hl hlopen hdl).and (ihr hr hropen hdr) hapart
  | weightedAnd θ₁ θ₂ l r => cases h
  | weightedOr θ₁ θ₂ l r => cases h

end Dnf

/-! ## Terms over given atoms -/

section

variable {d : Dnf} {t u : Term} {A : Finset String}

/-- What a term says of each atom of a set. -/
def sayings (A : Finset String) (t : Term) (a : A) : Option Bool := Formula.atomIn t a

/-- A well-formed term over given atoms is what it says of them. -/
lemma subset_of_sayings_eq (ht : t.WellFormed) (hu : u.WellFormed)
    (hA : ∀ l ∈ t.literals, l.atom ∈ A) (h : sayings A t = sayings A u) : t ⊆ u := by
  intro l hl
  obtain ⟨htrue, hfalse⟩ := ht.noConstant l hl
  have hsame : Formula.atomIn t l.atom = Formula.atomIn u l.atom := congrFun h ⟨l.atom, hA l hl⟩
  have hl' : (⟨l.atom, !!l.negated⟩ : Literal) = l := by rw [Bool.not_not]
  rw [← hl'] at hl ⊢
  rw [← Formula.atomIn_eq_some_iff hu htrue hfalse, ← hsame]
  exact (Formula.atomIn_eq_some_iff ht htrue hfalse).2 hl

/-- **There are at most `3 ^ n` terms over `n` atoms.** -/
lemma Dnf.WellFormed.size_le_pow (hd : d.WellFormed) (hA : ∀ a, d.Mentions a → a ∈ A) :
    d.size ≤ 3 ^ A.card := by
  have hsub : ∀ t ∈ d.terms, ∀ u ∈ d.terms, sayings A t = sayings A u → t ⊆ u := by
    intro t ht u hu
    exact subset_of_sayings_eq (hd.terms t ht) (hd.terms u hu) fun l hl =>
      hA _ (mentions_of_mem ht hl)
  have hnodup : (d.terms.toList.map (sayings A)).Nodup :=
    d.terms.nodup.map_on fun t ht u hu h =>
      Term.eq_of_subset (hsub t ht u hu h) (hsub u hu t ht h.symm)
  calc d.size
      = (d.terms.toList.map (sayings A)).length := by rw [List.length_map]; rfl
    _ ≤ Fintype.card (A → Option Bool) := hnodup.length_le_card
    _ = 3 ^ A.card := by simp

/-- A well-formed term has at most one literal on each atom. -/
lemma Term.WellFormed.size_le_card (ht : t.WellFormed) (hA : ∀ l ∈ t.literals, l.atom ∈ A) :
    t.size ≤ A.card := by
  have hnodup : (t.literals.toList.map Literal.atom).Nodup :=
    t.literals.nodup.map_on fun l hl m hm h =>
      (Literal.eq_or_eq_complement h).resolve_right fun hc => ht.consistent m hm (hc ▸ hl)
  have hsub : (t.literals.toList.map Literal.atom).toFinset ⊆ A := by
    intro a ha
    obtain ⟨l, hl, rfl⟩ := List.mem_map.1 (List.mem_toFinset.1 ha)
    exact hA l hl
  calc t.size
      = (t.literals.toList.map Literal.atom).toFinset.card := by
        rw [List.toFinset_card_of_nodup hnodup, List.length_map]; rfl
    _ ≤ A.card := Finset.card_le_card hsub

end

end GradedQuery
