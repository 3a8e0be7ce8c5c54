import GradedQuery.Proofs.Built
import Mathlib.Data.Finset.Card
import Mathlib.Data.List.Nodup
import Mathlib.Data.List.Pairwise

/-!
# Normalized terms never overlap

The splitting stops when no ordinal attribute has two literals *in the whole normal form*; what is
wanted is that no *pair of terms* overlaps.  Two facts lead from one to the other.

* **Overlaps are left only by a cut-off that is reported** (`Splits.exists_depthExhausted`), so that
  without one every pair is separated (`Splits.separated`).  Where nothing overlaps any more, two
  terms differ in at most one literal on an ordinal attribute.  A recombination keeps that up:
  terms of one branch get the same literal added, and terms of different branches exclude each
  other by their added literals.
* **Deep enough splitting is never cut off** (`Splits.not_exhausted`).  Each split takes its atom
  out of both branches, so the number of ordinal atoms (`Dnf.ordinalAtoms`) goes down with the
  levels left, and a normal form without ordinal atoms has nothing to split.
-/

namespace GradedQuery.Dnf

variable {opts : SplitOptions} {naming : Naming} {attr : String} {d e : Dnf} {t u : Term}
  {l m o : Literal} {n : Nat} {events : List Event}

/-! ## Differences of two terms -/

lemma mem_onlyIn :
    l ∈ onlyIn naming attr t u ↔ l ∈ t.literals ∧ naming l.atom = attr ∧ l ∉ u.literals := by
  simp [onlyIn, Term.contains]

lemma differences_comm (naming : Naming) (attr : String) (t u : Term) :
    differences naming attr t u = differences naming attr u t :=
  Nat.add_comm _ _

/-- Whether a literal on an attribute belongs to exactly one of two terms. -/
def InOne (naming : Naming) (attr : String) (t u : Term) (l : Literal) : Prop :=
  naming l.atom = attr ∧ (l ∈ t.literals ∧ l ∉ u.literals ∨ l ∈ u.literals ∧ l ∉ t.literals)

/-- The number of differences is at most one if no two different literals make one. -/
lemma differences_le_one_iff :
    differences naming attr t u ≤ 1 ↔
      ∀ l m, InOne naming attr t u l → InOne naming attr t u m → l = m := by
  -- what is only in one of the terms and what is only in the other are put into one list
  let ls := (onlyIn naming attr t u).toList ++ (onlyIn naming attr u t).toList
  have hmem : ∀ l, l ∈ ls ↔ InOne naming attr t u l := by
    intro l
    have hleft : l ∈ (onlyIn naming attr t u).toList ↔ _ := mem_onlyIn
    have hright : l ∈ (onlyIn naming attr u t).toList ↔ _ := mem_onlyIn
    rw [List.mem_append, hleft, hright, InOne]
    tauto
  have hnodup : ls.Nodup := by
    refine (onlyIn naming attr t u).nodup.append (onlyIn naming attr u t).nodup ?_
    intro l hl hl'
    exact (mem_onlyIn.1 hl).2.2 (mem_onlyIn.1 hl').1
  have hsize : differences naming attr t u = ls.toFinset.card := by
    rw [List.toFinset_card_of_nodup hnodup, List.length_append]
    rfl
  simp only [hsize, Finset.card_le_one, List.mem_toFinset, hmem]
  tauto

/-- Where all literals on an attribute are the same one, two terms differ in at most that one. -/
lemma differences_le_one
    (h : ∀ l m, (l ∈ t.literals ∨ l ∈ u.literals) → (m ∈ t.literals ∨ m ∈ u.literals) →
      naming l.atom = attr → naming m.atom = attr → l = m) :
    differences naming attr t u ≤ 1 := by
  refine differences_le_one_iff.2 fun l m hl hm => h l m ?_ ?_ hl.1 hm.1
  · exact hl.2.imp And.left And.left
  · exact hm.2.imp And.left And.left

/-- Terms of a normal form with a single literal on an attribute, or none, differ in at most that
one. -/
lemma differences_le_one_of_mem (ht : t ∈ d.terms) (hu : u ∈ d.terms)
    (h : ∀ l ∈ d.literals, ∀ m ∈ d.literals, naming l.atom = attr → naming m.atom = attr → l = m) :
    differences naming attr t u ≤ 1 := by
  have hmem : ∀ {l}, (l ∈ t.literals ∨ l ∈ u.literals) → l ∈ d.literals := by
    rintro l (hl | hl)
    · exact mem_literals.2 ⟨t, ht, hl⟩
    · exact mem_literals.2 ⟨u, hu, hl⟩
  exact differences_le_one fun l m hl hm => h l (hmem hl) m (hmem hm)

/-- Adding a literal that neither term has leaves the literals of only one of them alone. -/
lemma onlyIn_adjoin (naming : Naming) (attr : String) (ht : o ∉ t.literals) :
    onlyIn naming attr (t.adjoin o) (u.adjoin o) = onlyIn naming attr t u := by
  refine OrderedSet.ext_mem fun l => ?_
  rw [mem_onlyIn, mem_onlyIn, Term.mem_adjoin, Term.mem_adjoin]
  constructor
  · rintro ⟨rfl | hl, hattr, hnot⟩
    · exact absurd (Or.inl rfl) hnot
    · exact ⟨hl, hattr, fun hlu => hnot (Or.inr hlu)⟩
  · rintro ⟨hl, hattr, hnot⟩
    refine ⟨Or.inr hl, hattr, ?_⟩
    rintro (rfl | hlu)
    · exact ht hl
    · exact hnot hlu

lemma differences_adjoin (naming : Naming) (attr : String) (ht : o ∉ t.literals)
    (hu : o ∉ u.literals) :
    differences naming attr (t.adjoin o) (u.adjoin o) = differences naming attr t u := by
  rw [differences, differences, onlyIn_adjoin naming attr ht, onlyIn_adjoin naming attr hu]

/-! ## Separated terms -/

lemma separated_iff :
    separated opts naming t u = true ↔
      (t.excludes u = false → ∀ attr ∈ opts.ordinal, differences naming attr t u ≤ 1) := by
  simp only [separated, Bool.or_eq_true, List.all_eq_true, decide_eq_true_iff]
  cases t.excludes u with
  | true => simp
  | false => simp [OrderedSet.mem_def]

lemma separated_comm (h : separated opts naming t u = true) :
    separated opts naming u t = true := by
  rw [separated_iff] at h ⊢
  intro hexcl attr hattr
  rw [differences_comm]
  refine h ?_ attr hattr
  rw [Term.excludes_comm]
  exact hexcl

lemma separated_adjoin (ht : o ∉ t.literals) (hu : o ∉ u.literals)
    (h : separated opts naming t u = true) :
    separated opts naming (t.adjoin o) (u.adjoin o) = true := by
  rw [separated_iff] at h ⊢
  intro hexcl attr hattr
  rw [differences_adjoin naming attr ht hu]
  refine h ?_ attr hattr
  -- a conflict between the terms would remain one with the literal added
  rw [← Bool.not_eq_true, Term.excludes_iff] at hexcl ⊢
  rintro ⟨l, hl, hlc⟩
  exact hexcl ⟨l, Term.mem_adjoin.2 (Or.inr hl), Term.mem_adjoin.2 (Or.inr hlc)⟩

/-- Being overlap-free is a property of the pairs of different terms, in any order. -/
lemma isOverlapFree_iff :
    d.isOverlapFree opts naming = true ↔
      ∀ t ∈ d.terms, ∀ u ∈ d.terms, t ≠ u → separated opts naming t u = true := by
  rw [isOverlapFree, decide_eq_true_iff]
  constructor
  · intro h t ht u hu hne
    have hsymm : Std.Symm fun t u => separated opts naming t u = true :=
      ⟨fun _ _ => separated_comm⟩
    exact h.forall ht hu hne
  · exact fun h => d.terms.nodup.pairwise_of_forall_ne h

/-! ## Runs that are not cut off -/

/-- Where no attribute overlaps, all pairs of terms are separated. -/
lemma separated_of_isEmpty (h : (d.overlappingAttributes opts naming).isEmpty = true)
    (ht : t ∈ d.terms) (hu : u ∈ d.terms) : separated opts naming t u = true := by
  rw [separated_iff]
  intro _ attr hattr
  refine differences_le_one_of_mem ht hu fun l hl m hm hla hma => ?_
  by_contra hne
  exact OrderedSet.isEmpty_iff.1 h attr
    (mem_overlappingAttributes.2 ⟨hattr, l, hl, m, hm, hla, hma, hne⟩)

/-- Terms of different branches exclude each other. -/
lemma excludes_adjoin_complement (t u : Term) (o : Literal) :
    (t.adjoin o).excludes (u.adjoin o.complement) = true :=
  Term.excludes_iff.2 ⟨o, Term.mem_adjoin.2 (Or.inl rfl), Term.mem_adjoin.2 (Or.inl rfl)⟩

/-- A recombination separates its terms if each branch does. -/
lemma separated_recombine {p q : Dnf}
    (ho : o.atom ≠ Formula.trueName ∧ o.atom ≠ Formula.falseName)
    (hp : p.WellFormed) (hop : ¬ p.Mentions o.atom) (hq : q.WellFormed)
    (hoq : ¬ q.Mentions o.atom)
    (hpsep : ∀ t ∈ p.terms, ∀ u ∈ p.terms, t ≠ u → separated opts naming t u = true)
    (hqsep : ∀ t ∈ q.terms, ∀ u ∈ q.terms, t ≠ u → separated opts naming t u = true) :
    ∀ t ∈ (recombine o p q).terms, ∀ u ∈ (recombine o p q).terms, t ≠ u →
      separated opts naming t u = true := by
  intro t ht u hu hne
  rw [mem_recombine ho hp hop hq hoq] at ht hu
  have hcross : ∀ v w : Term,
      separated opts naming (v.adjoin o) (w.adjoin o.complement) = true := by
    intro v w
    rw [separated_iff, excludes_adjoin_complement]
    exact fun h => absurd h (by decide)
  rcases ht with ⟨v, hv, rfl⟩ | ⟨v, hv, rfl⟩ <;> rcases hu with ⟨w, hw, rfl⟩ | ⟨w, hw, rfl⟩
  · refine separated_adjoin (not_mem_of_not_mentions hop hv) (not_mem_of_not_mentions hop hw)
      (hpsep v hv w hw ?_)
    rintro rfl
    exact hne rfl
  · exact hcross v w
  · exact separated_comm (hcross w v)
  · refine separated_adjoin (not_mem_of_not_mentions (l := o.complement) hoq hv)
      (not_mem_of_not_mentions (l := o.complement) hoq hw) (hqsep v hv w hw ?_)
    rintro rfl
    exact hne rfl

/-- A normal form that is not overlap-free has two terms that show it. -/
lemma exists_overlap (h : d.isOverlapFree opts naming = false) :
    ∃ t ∈ d.terms, ∃ u ∈ d.terms, t ≠ u ∧ separated opts naming t u = false := by
  by_contra hnone
  have hfree : d.isOverlapFree opts naming = true := by
    refine isOverlapFree_iff.2 fun t ht u hu hne => ?_
    by_contra hover
    exact hnone ⟨t, ht, u, hu, hne, Bool.eq_false_iff.2 hover⟩
  rw [hfree] at h
  exact absurd h (by decide)

/-- **Overlaps are left only where the splitting is cut off**, and then the events say so: the
normal form that was left as it is has two terms at least. -/
lemma Splits.exists_depthExhausted (h : Splits opts naming n d e events) (hd : d.WellFormed)
    (hover : e.isOverlapFree opts naming = false) :
    ∃ terms, 2 ≤ terms ∧ .depthExhausted opts.maxDepth terms ∈ events := by
  induction h with
  | flat hempty =>
      obtain ⟨t, ht, u, hu, -, htu⟩ := exists_overlap hover
      rw [separated_of_isEmpty hempty ht hu] at htu
      exact absurd htu (by decide)
  | @exhausted d _ =>
      obtain ⟨t, ht, u, hu, hne, -⟩ := exists_overlap hover
      have hsize : 2 ≤ d.size := OrderedSet.two_le_size_iff.2 ⟨t, ht, u, hu, hne⟩
      exact ⟨d.size, hsize, List.mem_cons_self⟩
  | @cases n d p q l pos neg _ hl hp hq ihp ihq =>
      -- an overlap of the recombination is one of a branch, whose events are among those here
      cases hpfree : p.isOverlapFree opts naming with
      | false =>
          obtain ⟨terms, hterms, hmem⟩ := ihp (hd.cofactor _) hpfree
          exact ⟨terms, hterms, List.mem_cons_of_mem _ (List.mem_append_left _ hmem)⟩
      | true =>
          cases hqfree : q.isOverlapFree opts naming with
          | false =>
              obtain ⟨terms, hterms, hmem⟩ := ihq (hd.cofactor _) hqfree
              exact ⟨terms, hterms, List.mem_cons_of_mem _ (List.mem_append_right _ hmem)⟩
          | true =>
              obtain ⟨t, ht, u, hu, hne, htu⟩ := exists_overlap hover
              have hsep := separated_recombine (splitLiteral_noConstant hd hl)
                (hp.wellFormed (hd.cofactor _)) hp.not_mentions
                (hq.wellFormed (hd.cofactor _)) hq.not_mentions
                (isOverlapFree_iff.1 hpfree) (isOverlapFree_iff.1 hqfree) t ht u hu hne
              rw [hsep] at htu
              exact absurd htu (by decide)

/-- **Without cut-off every two terms of the result are separated.** -/
lemma Splits.separated (h : Splits opts naming n d e events) (hd : d.WellFormed)
    (hfull : ∀ size, .depthExhausted opts.maxDepth size ∉ events) :
    ∀ t ∈ e.terms, ∀ u ∈ e.terms, t ≠ u → separated opts naming t u = true := by
  rw [← isOverlapFree_iff]
  by_contra hover
  obtain ⟨terms, -, hmem⟩ := h.exists_depthExhausted hd (Bool.eq_false_iff.2 hover)
  exact hfull terms hmem

/-! ## Depth -/

/-- The atoms of a normal form that are on an ordinal attribute. -/
def ordinalAtoms (opts : SplitOptions) (naming : Naming) (d : Dnf) : OrderedSet String :=
  .ofList ((d.literals.map Literal.atom).filter (naming · ∈ opts.ordinal))

lemma mem_ordinalAtoms {a : String} :
    a ∈ d.ordinalAtoms opts naming ↔ d.Mentions a ∧ naming a ∈ opts.ordinal := by
  simp only [ordinalAtoms, OrderedSet.mem_ofList, List.mem_filter, List.mem_map,
    decide_eq_true_iff]
  exact Iff.rfl

/-- What is split on is an ordinal atom. -/
lemma splitLiteral_mem_ordinalAtoms
    (hl : d.splitLiteral naming (d.overlappingAttributes opts naming) = .ok l) :
    l.atom ∈ d.ordinalAtoms opts naming := by
  obtain ⟨hmem, hover⟩ := of_splitLiteral_eq_ok hl
  exact mem_ordinalAtoms.2 ⟨⟨l, hmem, rfl⟩, (mem_overlappingAttributes.1 hover).1⟩

/-- **A split leaves fewer ordinal atoms to both branches.** -/
lemma ordinalAtoms_cofactor_lt (ho : o.atom ∈ d.ordinalAtoms opts naming) :
    ((d.cofactor o).ordinalAtoms opts naming).size < (d.ordinalAtoms opts naming).size := by
  refine OrderedSet.size_lt_of_subset (fun a ha => ?_) ho fun hmem => ?_
  · rw [mem_ordinalAtoms] at ha ⊢
    exact ⟨(mentions_of_mentions_cofactor ha.1).1, ha.2⟩
  · exact (mentions_of_mentions_cofactor (mem_ordinalAtoms.1 hmem).1).2 rfl

/-- **With a level for every ordinal atom the splitting is not cut off.** -/
lemma Splits.not_exhausted (h : Splits opts naming n d e events)
    (hdepth : (d.ordinalAtoms opts naming).size ≤ n) (size : Nat) :
    .depthExhausted opts.maxDepth size ∉ events := by
  induction h with
  | flat _ => exact List.not_mem_nil
  | exhausted hover =>
      obtain ⟨l, hl⟩ := exists_splitLiteral hover
      have hlt := ordinalAtoms_cofactor_lt (splitLiteral_mem_ordinalAtoms hl)
      omega
  | @cases n d p q l pos neg hover hl hp hq ihp ihq =>
      have hl' := splitLiteral_mem_ordinalAtoms hl
      have hpos := ordinalAtoms_cofactor_lt (o := l.positiveForm) hl'
      have hneg := ordinalAtoms_cofactor_lt (o := l.positiveForm.complement) hl'
      rw [List.mem_cons, List.mem_append]
      rintro (heq | hmem | hmem)
      · cases heq
      · exact ihp (by omega) hmem
      · exact ihq (by omega) hmem

/-! ## The result -/

/-- **With a level for every ordinal atom, normalization ends without overlaps.**  No two terms
that can hold together differ in two literals on an ordinal attribute. -/
theorem isOverlapFree_normalize (hd : d.Built)
    (hdepth : (d.ordinalAtoms opts naming).size ≤ opts.maxDepth) :
    ∃ e, (d.normalize opts naming).outcome = .ok e ∧ e.isOverlapFree opts naming = true ∧
      ∀ t ∈ e.terms, ∀ u ∈ e.terms, t ≠ u → t.excludes u = false →
        ∀ attr ∈ opts.ordinal, differences naming attr t u ≤ 1 := by
  obtain ⟨e, he, hfree⟩ : ∃ e, (d.normalize opts naming).outcome = .ok e ∧
      e.isOverlapFree opts naming = true := by
    rcases normalize_cases opts naming d with ⟨hfree, hnorm⟩ | ⟨e, events, hnorm, hrun⟩
    · exact ⟨d, by rw [hnorm], hfree⟩
    · exact ⟨e, by rw [hnorm],
        isOverlapFree_iff.2 (hrun.separated hd.wellFormed (hrun.not_exhausted hdepth))⟩
  refine ⟨e, he, hfree, fun t ht u hu hne => ?_⟩
  exact separated_iff.1 (isOverlapFree_iff.1 hfree t ht u hu hne)

/-- Three buckets of a price, with a level for each. -/
theorem isOverlapFree_normalize_price :
    ∃ e, (normalize ⟨.singleton "price", 3⟩ defaultNaming
        (((ofLiteral (.positive "price__low")).or (ofLiteral (.positive "price__mid"))).or
          (ofLiteral (.positive "price__high")))).outcome = .ok e ∧
      e.isOverlapFree ⟨.singleton "price", 3⟩ defaultNaming = true ∧
      ∀ t ∈ e.terms, ∀ u ∈ e.terms, t ≠ u → t.excludes u = false →
        ∀ attr ∈ OrderedSet.singleton "price", differences defaultNaming attr t u ≤ 1 := by
  refine isOverlapFree_normalize (.or (.or (.ofLiteral _) (.ofLiteral _)) (.ofLiteral _)) ?_
  have hsize : (OrderedSet.ofList ["price__low", "price__mid", "price__high"]).size = 3 := by
    decide
  rw [← hsize]
  refine OrderedSet.size_le_of_subset fun a ha => ?_
  rw [OrderedSet.mem_ofList]
  rcases mentions_of_mentions_or (mem_ordinalAtoms.1 ha).1 with h | h
  · rcases mentions_of_mentions_or h with h | h
    · rw [mentions_of_mentions_ofLiteral h]
      decide
    · rw [mentions_of_mentions_ofLiteral h]
      decide
  · rw [mentions_of_mentions_ofLiteral h]
    decide

end GradedQuery.Dnf
