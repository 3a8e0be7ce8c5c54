import GradedQuery.Normalize
import GradedQuery.Proofs.Conversion

/-!
# Case splits

A split on the atom of a literal `o` replaces a normal form by two cofactors and puts them together
again under `o` and its complement.

* `Dnf.Mentions` — whether a literal of a normal form speaks about an atom.  Cofactors do not
  mention the split atom any more (`mentions_of_mentions_cofactor`), and nothing mentions more than
  the normal form that it came from.
* **`mem_recombine`** — a recombination has exactly the terms of one branch with `o` added and
  those of the other with its complement.  Nothing is absorbed: the first ones are no more inside
  each other than before, and a term with `o` is never inside one with its complement.
* `Splits` — the runs of `Dnf.split`, as a relation between the levels left, the normal form, the
  result and the events, with one rule for each way that the function ends.
  **`splits_split`** says that every run is one of these, so that the failure for a missing split
  literal never happens, and `Splits.split_eq` that each of these is a run; later arguments go by
  induction on the rules.
* `normalize_cases` and `Formula.outcome_normalize_eq_ok` — what a run of the normalizer is made of,
  for normal forms and for formulas.
-/

namespace GradedQuery

/-- Two literals on one atom are equal or complements. -/
lemma Literal.eq_or_eq_complement {l o : Literal} (h : l.atom = o.atom) :
    l = o ∨ l = o.complement := by
  obtain ⟨a, negated⟩ := l
  obtain ⟨b, negated'⟩ := o
  cases h
  cases negated <;> cases negated' <;> simp [Literal.complement]

/-! ## Adding a literal to a term -/

namespace Term

variable {t u : Term} {l o : Literal}

/-- The term with a literal added. -/
def adjoin (o : Literal) (t : Term) : Term := ⟨(OrderedSet.singleton o).union t.literals⟩

@[simp] lemma mem_adjoin : l ∈ (t.adjoin o).literals ↔ l = o ∨ l ∈ t.literals := by
  rw [adjoin, OrderedSet.mem_union, OrderedSet.mem_singleton]

/-- Adding a literal that neither term has changes nothing about which one is inside the other. -/
lemma adjoin_subset_adjoin (ht : o ∉ t.literals) : t.adjoin o ⊆ u.adjoin o ↔ t ⊆ u := by
  constructor
  · intro h l hl
    rcases mem_adjoin.1 (h l (mem_adjoin.2 (Or.inr hl))) with rfl | hlu
    · exact absurd hl ht
    · exact hlu
  · intro h l hl
    rcases mem_adjoin.1 hl with rfl | hl
    · exact mem_adjoin.2 (Or.inl rfl)
    · exact mem_adjoin.2 (Or.inr (h l hl))

end Term

namespace Dnf

variable {d e p q : Dnf} {t : Term} {l o : Literal} {a : String} {s : String → Bool}

/-! ## Mentioned atoms -/

/-- Whether a literal of a normal form speaks about an atom. -/
def Mentions (d : Dnf) (atom : String) : Prop := ∃ l ∈ d.literals, l.atom = atom

lemma mentions_of_mem (ht : t ∈ d.terms) (hl : l ∈ t.literals) : d.Mentions l.atom :=
  ⟨l, mem_literals.2 ⟨t, ht, hl⟩, rfl⟩

lemma not_mem_of_not_mentions (h : ¬ d.Mentions l.atom) (ht : t ∈ d.terms) : l ∉ t.literals :=
  fun hl => h (mentions_of_mem ht hl)

lemma mentions_of_mentions_ofLiteral (h : (ofLiteral o).Mentions a) : a = o.atom := by
  obtain ⟨l, hl, rfl⟩ := h
  obtain ⟨t, ht, hlt⟩ := mem_literals.1 hl
  rcases Term.ofLiteral?_eq_some.1 (Option.mem_toList.1 (mem_of_mem_ofTerms ht)) with
    ⟨-, -, rfl⟩ | ⟨-, -, rfl⟩ | ⟨-, -, rfl⟩
  · exact absurd hlt (Term.not_mem_empty l)
  · exact absurd hlt (Term.not_mem_empty l)
  · rw [OrderedSet.mem_singleton.1 hlt]

lemma mentions_of_mentions_or (h : (d.or e).Mentions a) : d.Mentions a ∨ e.Mentions a := by
  obtain ⟨l, hl, rfl⟩ := h
  obtain ⟨t, ht, hlt⟩ := mem_literals.1 hl
  rcases mem_or ht with ht | ht
  · exact Or.inl (mentions_of_mem ht hlt)
  · exact Or.inr (mentions_of_mem ht hlt)

lemma mentions_of_mentions_and (h : (d.and e).Mentions a) : d.Mentions a ∨ e.Mentions a := by
  obtain ⟨l, hl, rfl⟩ := h
  obtain ⟨t, ht, hlt⟩ := mem_literals.1 hl
  obtain ⟨u, hu, w, hw, huw⟩ := mem_and ht
  rcases ((Term.conjoin?_eq_some.1 huw).2 l).1 hlt with hlu | hlw
  · exact Or.inl (mentions_of_mem hu hlu)
  · exact Or.inr (mentions_of_mem hw hlw)

/-! ## Cofactors -/

/-- The terms that a cofactor is made of. -/
lemma mem_restricted :
    t ∈ ((d.terms.toList.filter (!·.contains o.complement)).map (·.without o)) ↔
      ∃ u ∈ d.terms, o.complement ∉ u.literals ∧ u.without o = t := by
  simp only [List.mem_map, List.mem_filter, Bool.not_eq_true', ← Bool.not_eq_true,
    Term.contains_iff, and_assoc]
  exact Iff.rfl

/-- The literals of a cofactor are among those of the normal form, and none is on the split atom. -/
lemma mem_literals_of_mem_cofactor (h : l ∈ (d.cofactor o).literals) :
    l ∈ d.literals ∧ l.atom ≠ o.atom := by
  obtain ⟨t, ht, hlt⟩ := mem_literals.1 h
  obtain ⟨u, hu, hou, rfl⟩ := mem_restricted.1 (mem_of_mem_ofTerms ht)
  rw [Term.mem_without] at hlt
  refine ⟨mem_literals.2 ⟨u, hu, hlt.1⟩, fun hatom => ?_⟩
  -- a literal on the split atom is `o` itself, which was removed, or its complement
  rcases Literal.eq_or_eq_complement hatom with rfl | rfl
  · exact hlt.2 rfl
  · exact hou hlt.1

/-- A cofactor mentions what the normal form mentions, but the split atom. -/
lemma mentions_of_mentions_cofactor (h : (d.cofactor o).Mentions a) :
    d.Mentions a ∧ a ≠ o.atom := by
  obtain ⟨l, hl, rfl⟩ := h
  obtain ⟨hmem, hne⟩ := mem_literals_of_mem_cofactor hl
  exact ⟨⟨l, hmem, rfl⟩, hne⟩

/-- Where `o` holds, its cofactor means the same as the normal form. -/
lemma holds_cofactor (d : Dnf) (ho : o.holds s = true) :
    (d.cofactor o).holds s = d.holds s := by
  rw [Bool.eq_iff_iff, cofactor, holds_ofTerms, List.any_eq_true, holds_iff]
  constructor
  · rintro ⟨t, ht, hs⟩
    obtain ⟨u, hu, -, rfl⟩ := mem_restricted.1 ht
    refine ⟨u, hu, Term.holds_iff.2 fun l hl => ?_⟩
    by_cases hlo : l = o
    · rw [hlo]
      exact ho
    · exact Term.holds_iff.1 hs l (Term.mem_without.2 ⟨hl, hlo⟩)
  · rintro ⟨u, hu, hs⟩
    refine ⟨u.without o, mem_restricted.2 ⟨u, hu, fun hou => ?_, rfl⟩, ?_⟩
    · have hcompl := Term.holds_iff.1 hs _ hou
      rw [Literal.holds_complement, ho] at hcompl
      exact absurd hcompl (by decide)
    · exact Term.holds_of_subset (fun l hl => (Term.mem_without.1 hl).1) hs

lemma WellFormed.cofactor (hd : d.WellFormed) (o : Literal) : (d.cofactor o).WellFormed := by
  refine WellFormed.ofTerms fun t ht => ?_
  obtain ⟨u, hu, -, rfl⟩ := mem_restricted.1 ht
  exact (hd.terms u hu).without o

/-! ## Recombination -/

lemma ofLiteral_eq (ho : o.atom ≠ Formula.trueName ∧ o.atom ≠ Formula.falseName) :
    ofLiteral o = ⟨.singleton ⟨.singleton o⟩⟩ := by
  have hterm : Term.ofLiteral? o = some ⟨.singleton o⟩ :=
    Term.ofLiteral?_eq_some.2 (Or.inr (Or.inr ⟨ho.1, ho.2, rfl⟩))
  rw [ofLiteral, hterm]
  exact ofTerms_singleton _

lemma mem_ofLiteral (ho : o.atom ≠ Formula.trueName ∧ o.atom ≠ Formula.falseName) :
    t ∈ (ofLiteral o).terms ↔ t = ⟨.singleton o⟩ := by
  rw [ofLiteral_eq ho, OrderedSet.mem_singleton]

/-- A literal joins every term that does not speak about its atom. -/
lemma conjoin?_singleton (h : o.complement ∉ t.literals) :
    (⟨.singleton o⟩ : Term).conjoin? t = some (t.adjoin o) := by
  rw [Term.conjoin?_eq_some, ← Bool.not_eq_true, Term.singleton_excludes]
  exact ⟨h, fun l => by rw [Term.mem_adjoin, OrderedSet.mem_singleton]⟩

/-- A branch under its literal has the terms of the branch with the literal added. -/
lemma mem_ofLiteral_and (ho : o.atom ≠ Formula.trueName ∧ o.atom ≠ Formula.falseName)
    (hp : p.WellFormed) (hop : ¬ p.Mentions o.atom) :
    t ∈ ((ofLiteral o).and p).terms ↔ ∃ u ∈ p.terms, t = u.adjoin o := by
  have hproducts : ∀ w, (w ∈ ((ofLiteral o).terms.toList.flatMap fun v =>
      p.terms.toList.filterMap v.conjoin?)) ↔ ∃ u ∈ p.terms, w = u.adjoin o := by
    intro w
    rw [mem_products]
    constructor
    · rintro ⟨v, hv, u, hu, hvu⟩
      rw [(mem_ofLiteral ho).1 hv,
        conjoin?_singleton (not_mem_of_not_mentions (l := o.complement) hop hu)] at hvu
      cases hvu
      exact ⟨u, hu, rfl⟩
    · rintro ⟨u, hu, rfl⟩
      exact ⟨_, (mem_ofLiteral ho).2 rfl, u, hu,
        conjoin?_singleton (not_mem_of_not_mentions (l := o.complement) hop hu)⟩
  rw [and, mem_ofTerms_of_antichain, hproducts]
  intro v hv w hw hvw
  obtain ⟨u, hu, rfl⟩ := (hproducts v).1 hv
  obtain ⟨u', hu', rfl⟩ := (hproducts w).1 hw
  rw [Term.adjoin_subset_adjoin (not_mem_of_not_mentions hop hu)] at hvw
  rw [hp.antichain u hu u' hu' hvw]

/-- **A recombination has the terms of both branches, each with its literal added.** -/
lemma mem_recombine (ho : o.atom ≠ Formula.trueName ∧ o.atom ≠ Formula.falseName)
    (hp : p.WellFormed) (hop : ¬ p.Mentions o.atom) (hq : q.WellFormed)
    (hoq : ¬ q.Mentions o.atom) :
    t ∈ (recombine o p q).terms ↔
      (∃ u ∈ p.terms, t = u.adjoin o) ∨ (∃ u ∈ q.terms, t = u.adjoin o.complement) := by
  have hpos : ∀ w, w ∈ ((ofLiteral o).and p).terms ↔ _ := fun w => mem_ofLiteral_and ho hp hop
  have hneg : ∀ w, w ∈ ((ofLiteral o.complement).and q).terms ↔ _ := fun w =>
    mem_ofLiteral_and (o := o.complement) ho hq hoq
  rw [recombine, or, mem_ofTerms_of_antichain, List.mem_append]
  · exact or_congr (hpos t) (hneg t)
  -- no term is inside another: within a branch because the branch is so, across the branches
  -- because a literal and its complement are never together
  · intro v hv w hw hvw
    rcases List.mem_append.1 hv with hv | hv <;> rcases List.mem_append.1 hw with hw | hw
    · exact antichain_ofTerms _ v hv w hw hvw
    · obtain ⟨u, -, rfl⟩ := (hpos v).1 hv
      obtain ⟨u', hu', rfl⟩ := (hneg w).1 hw
      rcases Term.mem_adjoin.1 (hvw o (Term.mem_adjoin.2 (Or.inl rfl))) with hoo | hou
      · exact absurd hoo.symm (Literal.complement_ne o)
      · exact absurd hou (not_mem_of_not_mentions hoq hu')
    · obtain ⟨u, -, rfl⟩ := (hneg v).1 hv
      obtain ⟨u', hu', rfl⟩ := (hpos w).1 hw
      rcases Term.mem_adjoin.1 (hvw _ (Term.mem_adjoin.2 (Or.inl rfl))) with hoo | hou
      · exact absurd hoo (Literal.complement_ne o)
      · exact absurd hou (not_mem_of_not_mentions (l := o.complement) hop hu')
    · exact antichain_ofTerms _ v hv w hw hvw

/-- A recombination mentions the split atom and what the branches mention. -/
lemma mentions_of_mentions_recombine (h : (recombine o p q).Mentions a) :
    a = o.atom ∨ p.Mentions a ∨ q.Mentions a := by
  rcases mentions_of_mentions_or h with h | h
  · rcases mentions_of_mentions_and h with h | h
    · exact Or.inl (mentions_of_mentions_ofLiteral h)
    · exact Or.inr (Or.inl h)
  · rcases mentions_of_mentions_and h with h | h
    · exact Or.inl (mentions_of_mentions_ofLiteral (o := o.complement) h)
    · exact Or.inr (Or.inr h)

/-- A recombination means one branch where the literal holds and the other one elsewhere. -/
lemma holds_recombine (s : String → Bool)
    (ho : o.atom ≠ Formula.trueName ∧ o.atom ≠ Formula.falseName) (p q : Dnf) :
    (recombine o p q).holds s = if o.holds s then p.holds s else q.holds s := by
  have hatom : Formula.atomHolds s o.atom = s o.atom := Formula.atomHolds_of_ne s ho.1 ho.2
  have hpos : (ofLiteral o).holds s = o.holds s := by
    rw [holds_ofLiteral, hatom, Literal.holds]
  have hneg : (ofLiteral o.complement).holds s = !o.holds s := by
    rw [← Literal.holds_complement, holds_ofLiteral, Literal.holds]
    exact congrArg (· != o.complement.negated) hatom
  rw [recombine, holds_or, holds_and, holds_and, hpos, hneg]
  cases o.holds s <;> simp

/-- Branches that mean what the cofactors mean make up the normal form again. -/
lemma holds_recombine_cofactors
    (ho : o.atom ≠ Formula.trueName ∧ o.atom ≠ Formula.falseName)
    (hp : p.holds s = (d.cofactor o).holds s)
    (hq : q.holds s = (d.cofactor o.complement).holds s) :
    (recombine o p q).holds s = d.holds s := by
  rw [holds_recombine s ho, hp, hq]
  cases hs : o.holds s with
  | true => rw [if_pos rfl, holds_cofactor d hs]
  | false =>
      have hsc : o.complement.holds s = true := by
        rw [Literal.holds_complement, hs]
        rfl
      rw [if_neg Bool.false_ne_true, holds_cofactor d hsc]

lemma WellFormed.recombine (hp : p.WellFormed) (hq : q.WellFormed) (o : Literal) :
    (recombine o p q).WellFormed :=
  ((WellFormed.ofLiteral o).and hp).or ((WellFormed.ofLiteral o.complement).and hq)

/-! ## The literal to split on -/

variable {opts : SplitOptions} {naming : Naming} {attr : String}

/-- An attribute overlaps if it is ordinal and two different literals are on it. -/
lemma mem_overlappingAttributes :
    attr ∈ d.overlappingAttributes opts naming ↔
      attr ∈ opts.ordinal ∧
        ∃ l ∈ d.literals, ∃ m ∈ d.literals,
          naming l.atom = attr ∧ naming m.atom = attr ∧ l ≠ m := by
  rw [overlappingAttributes, OrderedSet.mem_filter, decide_eq_true_iff,
    OrderedSet.two_le_size_iff]
  refine and_congr_right fun _ => ?_
  simp only [literalsOn, OrderedSet.mem_ofList, List.mem_filter, decide_eq_true_iff]
  constructor
  · rintro ⟨l, ⟨hl, hla⟩, m, ⟨hm, hma⟩, hne⟩
    exact ⟨l, hl, m, hm, hla, hma, hne⟩
  · rintro ⟨l, hl, m, hm, hla, hma, hne⟩
    exact ⟨l, ⟨hl, hla⟩, m, ⟨hm, hma⟩, hne⟩

/-- The split literal belongs to the normal form and is on an overlapping attribute. -/
lemma of_splitLiteral_eq_ok {overlapping : OrderedSet String}
    (h : d.splitLiteral naming overlapping = .ok l) :
    l ∈ d.literals ∧ naming l.atom ∈ overlapping := by
  rw [splitLiteral] at h
  split at h
  · next found hfound =>
      cases h
      exact ⟨List.mem_of_find?_eq_some hfound, by simpa using List.find?_some hfound⟩
  · exact absurd h (by simp)

lemma splitLiteral_noConstant (hd : d.WellFormed) {overlapping : OrderedSet String}
    (hl : d.splitLiteral naming overlapping = .ok l) :
    l.positiveForm.atom ≠ Formula.trueName ∧ l.positiveForm.atom ≠ Formula.falseName := by
  have hne := hd.noConstant (of_splitLiteral_eq_ok hl).1
  exact hne

/-- **There is a literal to split on** as long as an attribute overlaps. -/
lemma exists_splitLiteral (h : (d.overlappingAttributes opts naming).isEmpty = false) :
    ∃ l, d.splitLiteral naming (d.overlappingAttributes opts naming) = .ok l := by
  obtain ⟨attr, hattr⟩ := OrderedSet.exists_mem h
  obtain ⟨-, l, hl, -, -, hla, -⟩ := mem_overlappingAttributes.1 hattr
  rw [splitLiteral]
  cases hfind : d.literals.find? (naming ·.atom ∈ d.overlappingAttributes opts naming) with
  | some m => exact ⟨m, rfl⟩
  | none =>
      have hnone := List.find?_eq_none.1 hfind l hl
      rw [hla] at hnone
      exact absurd (decide_eq_true hattr) hnone

/-! ## Runs -/

/-- `Splits opts naming n d e events`: splitting `d` with `n` levels left gives `e` and reports
`events`. -/
inductive Splits (opts : SplitOptions) (naming : Naming) :
    Nat → Dnf → Dnf → List Event → Prop where
  /-- Without overlapping attributes there is nothing to split. -/
  | flat {n : Nat} {d : Dnf} (h : (d.overlappingAttributes opts naming).isEmpty = true) :
      Splits opts naming n d d []
  /-- Attributes overlap, but there are no levels left. -/
  | exhausted {d : Dnf} (h : (d.overlappingAttributes opts naming).isEmpty = false) :
      Splits opts naming 0 d d [.depthExhausted opts.maxDepth d.size]
  /-- Both cofactors are split and put together again. -/
  | cases {n : Nat} {d p q : Dnf} {l : Literal} {pos neg : List Event}
      (h : (d.overlappingAttributes opts naming).isEmpty = false)
      (hl : d.splitLiteral naming (d.overlappingAttributes opts naming) = .ok l)
      (hp : Splits opts naming n (d.cofactor l.positiveForm) p pos)
      (hq : Splits opts naming n (d.cofactor l.positiveForm.complement) q neg) :
      Splits opts naming (n + 1) d (recombine l.positiveForm p q)
        (.splitting l.positiveForm (opts.maxDepth - (n + 1)) d.size :: (pos ++ neg))

lemma split_of_isEmpty (n : Nat) (h : (d.overlappingAttributes opts naming).isEmpty = true) :
    split opts naming n d = ⟨.ok d, []⟩ := by
  rw [split.eq_def]
  simp only [h, if_true]
  rfl

lemma split_zero (h : (d.overlappingAttributes opts naming).isEmpty = false) :
    split opts naming 0 d = ⟨.ok d, [.depthExhausted opts.maxDepth d.size]⟩ := by
  rw [split.eq_def]
  simp only [h]
  rfl

lemma split_succ (n : Nat) (h : (d.overlappingAttributes opts naming).isEmpty = false)
    (hl : d.splitLiteral naming (d.overlappingAttributes opts naming) = .ok l)
    {p q : Dnf} {pos neg : List Event}
    (hp : split opts naming n (d.cofactor l.positiveForm) = ⟨.ok p, pos⟩)
    (hq : split opts naming n (d.cofactor l.positiveForm.complement) = ⟨.ok q, neg⟩) :
    split opts naming (n + 1) d = ⟨.ok (recombine l.positiveForm p q),
      .splitting l.positiveForm (opts.maxDepth - (n + 1)) d.size :: (pos ++ neg)⟩ := by
  rw [split.eq_def]
  simp only [h, hl, Bool.false_eq_true, if_false]
  rw [Traced.bind_eq_of_ok (a := l) rfl, Traced.bind_eq_of_ok (a := ()) rfl,
    Traced.bind_eq_of_ok (a := p) (by rw [hp]), Traced.bind_eq_of_ok (a := q) (by rw [hq])]
  simp [hp, hq]

/-- **Every run of the splitting follows the rules**, and so gives a result. -/
lemma splits_split (opts : SplitOptions) (naming : Naming) (n : Nat) (d : Dnf) :
    ∃ e events, split opts naming n d = ⟨.ok e, events⟩ ∧ Splits opts naming n d e events := by
  induction n generalizing d with
  | zero =>
      cases h : (d.overlappingAttributes opts naming).isEmpty with
      | true => exact ⟨d, [], split_of_isEmpty 0 h, .flat h⟩
      | false => exact ⟨d, _, split_zero h, .exhausted h⟩
  | succ n ih =>
      cases h : (d.overlappingAttributes opts naming).isEmpty with
      | true => exact ⟨d, [], split_of_isEmpty (n + 1) h, .flat h⟩
      | false =>
          obtain ⟨l, hl⟩ := exists_splitLiteral h
          obtain ⟨p, pos, hp, hps⟩ := ih (d.cofactor l.positiveForm)
          obtain ⟨q, neg, hq, hqs⟩ := ih (d.cofactor l.positiveForm.complement)
          exact ⟨_, _, split_succ n h hl hp hq, .cases h hl hps hqs⟩

namespace Splits

variable {n : Nat} {events : List Event}

/-- The rules leave no choice: a run that follows them is the run of the splitting. -/
lemma split_eq (h : Splits opts naming n d e events) : split opts naming n d = ⟨.ok e, events⟩ := by
  induction h with
  | flat hempty => exact split_of_isEmpty _ hempty
  | exhausted hover => exact split_zero hover
  | cases hover hl _ _ ihp ihq => exact split_succ _ hover hl ihp ihq

/-- The result of a run is as well-formed as the normal form that it starts from. -/
lemma wellFormed (h : Splits opts naming n d e events) (hd : d.WellFormed) : e.WellFormed := by
  induction h with
  | flat _ => exact hd
  | exhausted _ => exact hd
  | cases _ _ _ _ ihp ihq => exact (ihp (hd.cofactor _)).recombine (ihq (hd.cofactor _)) _

/-- **Splitting cases keeps the meaning**, wherever the depth limit cuts it short. -/
lemma holds (h : Splits opts naming n d e events) (hd : d.WellFormed) (s : String → Bool) :
    e.holds s = d.holds s := by
  induction h with
  | flat _ => rfl
  | exhausted _ => rfl
  | cases _ hl _ _ ihp ihq =>
      exact holds_recombine_cofactors (splitLiteral_noConstant hd hl) (ihp (hd.cofactor _))
        (ihq (hd.cofactor _))

/-- The result of a run mentions no new atom. -/
lemma mentions (h : Splits opts naming n d e events) (he : e.Mentions a) : d.Mentions a := by
  induction h with
  | flat _ => exact he
  | exhausted _ => exact he
  | cases _ hl _ _ ihp ihq =>
      rcases mentions_of_mentions_recombine he with rfl | hp | hq
      · exact ⟨_, (of_splitLiteral_eq_ok hl).1, rfl⟩
      · exact (mentions_of_mentions_cofactor (ihp hp)).1
      · exact (mentions_of_mentions_cofactor (ihq hq)).1

/-- The results of the two branches do not mention the split atom. -/
lemma not_mentions {o : Literal} (h : Splits opts naming n (d.cofactor o) e events) :
    ¬ e.Mentions o.atom :=
  fun he => (mentions_of_mentions_cofactor (h.mentions he)).2 rfl

end Splits

/-! ## Normalization -/

/-- A normal form without overlaps is returned as it is. -/
lemma normalize_of_isOverlapFree (h : d.isOverlapFree opts naming = true) :
    d.normalize opts naming = ⟨.ok d, [.alreadyOverlapFree d.size]⟩ := by
  simp only [normalize, h, if_true]
  rfl

/-- Any other one is split. -/
lemma normalize_of_overlap (h : d.isOverlapFree opts naming = false) :
    d.normalize opts naming = split opts naming opts.maxDepth d := by
  simp [normalize, h]

/-- A run of the normalization is a run of the splitting, unless there is nothing to do. -/
lemma normalize_cases (opts : SplitOptions) (naming : Naming) (d : Dnf) :
    (d.isOverlapFree opts naming = true ∧
        d.normalize opts naming = ⟨.ok d, [.alreadyOverlapFree d.size]⟩) ∨
      ∃ e events, d.normalize opts naming = ⟨.ok e, events⟩ ∧
        Splits opts naming opts.maxDepth d e events := by
  cases h : d.isOverlapFree opts naming with
  | true => exact Or.inl ⟨rfl, normalize_of_isOverlapFree h⟩
  | false =>
      rw [normalize_of_overlap h]
      exact Or.inr (splits_split opts naming opts.maxDepth d)

/-- **Normalization succeeds**, and its result is well-formed and means the same. -/
lemma exists_normalize (opts : SplitOptions) (naming : Naming) (hd : d.WellFormed) :
    ∃ e, (d.normalize opts naming).outcome = .ok e ∧ e.WellFormed ∧
      ∀ s, e.holds s = d.holds s := by
  rcases normalize_cases opts naming d with ⟨-, hnorm⟩ | ⟨e, events, hnorm, hrun⟩
  · exact ⟨d, by rw [hnorm], hd, fun s => rfl⟩
  · exact ⟨e, by rw [hnorm], hrun.wellFormed hd, hrun.holds hd⟩

lemma of_normalize_eq_ok (hd : d.WellFormed) (h : (d.normalize opts naming).outcome = .ok e) :
    e.WellFormed ∧ ∀ s, e.holds s = d.holds s := by
  obtain ⟨e', he', hresult⟩ := exists_normalize opts naming hd
  rw [h] at he'
  cases he'
  exact hresult

end Dnf

/-- Normalization sees nothing of a formula but its normal form. -/
lemma Formula.normalize_of_ofFormula {f : Formula} {d : Dnf} (h : Dnf.ofFormula f = .ok d)
    (opts : SplitOptions) (naming : Naming) :
    f.normalize opts naming = d.normalize opts naming >>= fun e => pure e.toFormula := by
  have hd : Dnf.ofFormulaIn .normalizer f = .ok d :=
    Dnf.ofFormulaIn_eq_ok.2 (Dnf.ofFormulaIn_eq_ok.1 h)
  rw [normalize, hd]
  exact Traced.bind_eq_of_ok (a := d) rfl _

/-- The normalized formula is that of the normalized normal form. -/
lemma Formula.outcome_normalize_eq_ok {opts : SplitOptions} {naming : Naming} {f g : Formula} :
    (f.normalize opts naming).outcome = .ok g ↔
      ∃ d e, Dnf.ofFormula f = .ok d ∧ (d.normalize opts naming).outcome = .ok e ∧
        g = e.toFormula := by
  rw [Formula.normalize, Traced.outcome_bind_eq_ok_iff]
  constructor
  · rintro ⟨d, hd, h⟩
    obtain ⟨e, he, h⟩ := Traced.outcome_bind_eq_ok_iff.1 h
    cases h
    exact ⟨d, e, Dnf.ofFormulaIn_eq_ok.2 (Dnf.ofFormulaIn_eq_ok.1 hd), he, rfl⟩
  · rintro ⟨d, e, hd, he, rfl⟩
    exact ⟨d, Dnf.ofFormulaIn_eq_ok.2 (Dnf.ofFormulaIn_eq_ok.1 hd),
      Traced.outcome_bind_eq_ok_iff.2 ⟨e, he, rfl⟩⟩

end GradedQuery
