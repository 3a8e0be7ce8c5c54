import GradedQuery.Term
import GradedQuery.Proofs.OrderedSet

/-!
# Terms as sets of literals

What each operation on terms does, said of the literals.  `t ⊆ u` is the order of terms that
absorption goes by: **the smaller term covers the larger one** (`Term.holds_of_subset`), and two
terms inside each other are equal (`Term.eq_of_subset`).  A conjunction is a run over the literals
of one term, `Term.foldlM_add?_eq_some`; whichever term is run over, it fails for the same pairs.

`Term.WellFormed` is the invariant of the terms that the library builds: no literal stands beside
its complement, and no literal speaks about a constant.  Every operation keeps it.
-/

namespace GradedQuery

namespace Term

variable {t u v w : Term} {l o : Literal}

/-! ## Inclusion -/

/-- One term is inside another if its literals are. -/
instance : HasSubset Term := ⟨fun t u => ∀ l ∈ t.literals, l ∈ u.literals⟩

@[simp] lemma subset_iff : t.subset u = true ↔ t ⊆ u := OrderedSet.subset_iff

lemma subset_refl (t : Term) : t ⊆ t := fun _ hl => hl

lemma subset_trans (h : t ⊆ u) (h' : u ⊆ w) : t ⊆ w := fun l hl => h' l (h l hl)

lemma ext_literals (h : t.literals = u.literals) : t = u := by
  cases t
  cases u
  cases h
  rfl

lemma ext_mem (h : ∀ l, l ∈ t.literals ↔ l ∈ u.literals) : t = u :=
  ext_literals (OrderedSet.ext_mem h)

/-- Two terms inside each other are equal. -/
lemma eq_of_subset (h : t ⊆ u) (h' : u ⊆ t) : t = u := ext_mem fun l => ⟨h l, h' l⟩

lemma eq_of_subset_of_size_le (h : t ⊆ u) (hsize : u.size ≤ t.size) : t = u :=
  ext_literals (OrderedSet.eq_of_subset_of_size_le h hsize)

/-! ## Operations -/

@[simp] lemma not_mem_empty (l : Literal) : l ∉ empty.literals := OrderedSet.not_mem_empty l

@[simp] lemma empty_subset (t : Term) : empty ⊆ t := fun l hl => absurd hl (not_mem_empty l)

@[simp] lemma contains_iff : t.contains l = true ↔ l ∈ t.literals := decide_eq_true_iff

@[simp] lemma mem_without : l ∈ (t.without o).literals ↔ l ∈ t.literals ∧ l ≠ o :=
  OrderedSet.mem_erase

/-- Two terms exclude each other if a literal of one is the complement of one of the other. -/
lemma excludes_iff :
    t.excludes u = true ↔ ∃ l ∈ t.literals, l.complement ∈ u.literals := by
  simp only [excludes, List.any_eq_true, contains_iff]
  exact Iff.rfl

lemma excludes_comm (t u : Term) : t.excludes u = u.excludes t := by
  have hturn : ∀ {t u : Term}, t.excludes u = true → u.excludes t = true := by
    intro t u h
    obtain ⟨l, hl, hlc⟩ := excludes_iff.1 h
    exact excludes_iff.2 ⟨l.complement, hlc, by rwa [Literal.complement_complement]⟩
  exact Bool.eq_iff_iff.2 ⟨hturn, hturn⟩

/-- A literal alone excludes the terms with its complement. -/
lemma singleton_excludes :
    (⟨.singleton o⟩ : Term).excludes t = true ↔ o.complement ∈ t.literals := by
  rw [excludes_iff]
  constructor
  · rintro ⟨l, hl, hlc⟩
    rwa [OrderedSet.mem_singleton.1 hl] at hlc
  · intro h
    exact ⟨o, OrderedSet.mem_singleton.2 rfl, h⟩

/-- One literal is added unless its complement stands against it. -/
lemma add?_eq_some :
    t.add? w l = some v ↔ l.complement ∉ t.literals ∧ v = ⟨w.literals.insert l⟩ := by
  simp only [add?]
  split
  · next hcontains => simp [contains_iff.1 hcontains]
  · next hcontains =>
    rw [contains_iff] at hcontains
    simp [hcontains, eq_comm]

/-- A run over literals succeeds if `t` has no complement of them, and has added these to `w`. -/
lemma foldlM_add?_eq_some {ls : List Literal} :
    ls.foldlM t.add? w = some v ↔ (∀ l ∈ ls, l.complement ∉ t.literals) ∧
      ∀ l, l ∈ v.literals ↔ l ∈ w.literals ∨ l ∈ ls := by
  induction ls generalizing w with
  | nil =>
      rw [List.foldlM_nil]
      constructor
      · rintro ⟨⟩
        simp
      · rintro ⟨-, hmem⟩
        have hwv : w = v := ext_mem fun l => by simp [hmem l]
        rw [hwv]
        rfl
  | cons o ls ih =>
      have hmem (l : Literal) :
          (l ∈ w.literals.insert o ∨ l ∈ ls) ↔ l ∈ w.literals ∨ l ∈ o :: ls := by
        rw [OrderedSet.mem_insert, List.mem_cons, or_assoc, or_left_comm]
      rw [List.foldlM_cons, Option.bind_eq_bind, Option.bind_eq_some_iff, List.forall_mem_cons]
      simp only [add?_eq_some, ih]
      constructor
      · rintro ⟨x, ⟨ho, rfl⟩, hls, hv⟩
        exact ⟨⟨ho, hls⟩, fun l => (hv l).trans (hmem l)⟩
      · rintro ⟨⟨ho, hls⟩, hv⟩
        exact ⟨_, ⟨ho, rfl⟩, hls, fun l => (hv l).trans (hmem l).symm⟩

/-- The conjunction exists unless the terms exclude each other, and has the literals of both.  Only
the literals of `u` are checked against `t`, which is enough since exclusion is symmetric. -/
lemma conjoin?_eq_some :
    t.conjoin? u = some w ↔
      t.excludes u = false ∧ ∀ l, l ∈ w.literals ↔ l ∈ t.literals ∨ l ∈ u.literals := by
  rw [conjoin?, foldlM_add?_eq_some, excludes_comm, ← Bool.not_eq_true, excludes_iff]
  refine and_congr_left fun _ => ?_
  simp only [not_exists, not_and]
  exact Iff.rfl

/-- There is none exactly if the terms exclude each other. -/
lemma conjoin?_eq_none : t.conjoin? u = none ↔ t.excludes u = true := by
  rw [Option.eq_none_iff_forall_ne_some]
  constructor
  · intro hnone
    by_contra hexcl
    exact hnone ⟨t.literals.union u.literals⟩
      (conjoin?_eq_some.2 ⟨Bool.eq_false_iff.2 hexcl, fun _ => OrderedSet.mem_union⟩)
  · intro hexcl w hw
    have hnot := (conjoin?_eq_some.1 hw).1
    rw [hexcl] at hnot
    cases hnot

/-- A literal becomes the empty term, no term or the term with itself only. -/
lemma ofLiteral?_eq_some :
    ofLiteral? l = some t ↔
      (l.atom = Formula.trueName ∧ l.negated = false ∧ t = empty) ∨
      (l.atom = Formula.falseName ∧ l.negated = true ∧ t = empty) ∨
      (l.atom ≠ Formula.trueName ∧ l.atom ≠ Formula.falseName ∧ t = ⟨.singleton l⟩) := by
  have hne : Formula.falseName ≠ Formula.trueName := by decide
  have hflip : ∀ u : Term, some u = some t ↔ t = u := fun u => by
    rw [Option.some.injEq]
    exact eq_comm
  simp only [ofLiteral?]
  by_cases htrue : l.atom = Formula.trueName
  · cases l.negated <;> simp [htrue, hne.symm, hflip]
  · by_cases hfalse : l.atom = Formula.falseName
    · cases l.negated <;> simp [hfalse, hne, hflip]
    · simp [htrue, hfalse, hflip]

/-! ## Meaning -/

lemma holds_iff {s : String → Bool} : t.holds s = true ↔ ∀ l ∈ t.literals, l.holds s = true := by
  simp only [holds, List.all_eq_true]
  exact Iff.rfl

/-- The smaller term covers the larger one. -/
lemma holds_of_subset {s : String → Bool} (h : t ⊆ u) (hu : u.holds s = true) :
    t.holds s = true := by
  rw [holds_iff] at hu ⊢
  intro l hl
  exact hu l (h l hl)

/-- A conjunction holds exactly where both terms do. -/
lemma holds_conjoin? {s : String → Bool} (h : t.conjoin? u = some w) :
    w.holds s = (t.holds s && u.holds s) := by
  have hmem := (conjoin?_eq_some.1 h).2
  rw [Bool.eq_iff_iff, Bool.and_eq_true, holds_iff, holds_iff, holds_iff]
  constructor
  · intro hw
    exact ⟨fun l hl => hw l ((hmem l).2 (.inl hl)), fun l hl => hw l ((hmem l).2 (.inr hl))⟩
  · rintro ⟨ht, hu⟩ l hl
    rcases (hmem l).1 hl with hl | hl
    · exact ht l hl
    · exact hu l hl

/-- Terms that exclude each other never hold together. -/
lemma holds_of_excludes {s : String → Bool} (h : t.excludes u = true) :
    (t.holds s && u.holds s) = false := by
  obtain ⟨l, hl, hlc⟩ := excludes_iff.1 h
  rw [Bool.eq_false_iff, ne_eq, Bool.and_eq_true, holds_iff, holds_iff]
  rintro ⟨ht, hu⟩
  have hlt := ht l hl
  have hlu := hu _ hlc
  rw [Literal.holds_complement, hlt] at hlu
  exact absurd hlu (by decide)

/-! ## The invariant -/

/-- No literal stands beside its complement, and none speaks about a constant. -/
structure WellFormed (t : Term) : Prop where
  consistent : ∀ l ∈ t.literals, l.complement ∉ t.literals
  noConstant : ∀ l ∈ t.literals, l.atom ≠ Formula.trueName ∧ l.atom ≠ Formula.falseName

namespace WellFormed

lemma empty : empty.WellFormed where
  consistent l hl := absurd hl (not_mem_empty l)
  noConstant l hl := absurd hl (not_mem_empty l)

/-- A part of a well-formed term is well-formed. -/
lemma of_subset (hu : u.WellFormed) (h : t ⊆ u) : t.WellFormed where
  consistent l hl hlc := hu.consistent l (h l hl) (h _ hlc)
  noConstant l hl := hu.noConstant l (h l hl)

lemma without (ht : t.WellFormed) (o : Literal) : (t.without o).WellFormed :=
  ht.of_subset fun _ hl => (mem_without.1 hl).1

lemma conjoin? (ht : t.WellFormed) (hu : u.WellFormed) (h : t.conjoin? u = some w) :
    w.WellFormed := by
  obtain ⟨hexcl, hmem⟩ := conjoin?_eq_some.1 h
  have hnone : ∀ l ∈ t.literals, l.complement ∉ u.literals := by
    intro l hl hlc
    have := excludes_iff.2 ⟨l, hl, hlc⟩
    rw [hexcl] at this
    exact absurd this (by decide)
  constructor
  · intro l hl hlc
    rcases (hmem l).1 hl with hl | hl <;> rcases (hmem _).1 hlc with hlc | hlc
    · exact ht.consistent l hl hlc
    · exact hnone l hl hlc
    · exact hnone _ hlc (by rwa [Literal.complement_complement])
    · exact hu.consistent l hl hlc
  · intro l hl
    rcases (hmem l).1 hl with hl | hl
    · exact ht.noConstant l hl
    · exact hu.noConstant l hl

/-- Parts of a well-formed term do not contradict each other. -/
lemma exists_conjoin? (ht : t.WellFormed) (hu : u ⊆ t) (hw : w ⊆ t) :
    ∃ v, u.conjoin? w = some v ∧ v ⊆ t := by
  cases hv : u.conjoin? w with
  | none =>
      obtain ⟨l, hl, hlc⟩ := excludes_iff.1 (conjoin?_eq_none.1 hv)
      exact absurd (hw _ hlc) (ht.consistent l (hu l hl))
  | some v =>
      refine ⟨v, rfl, fun l hl => ?_⟩
      rcases ((conjoin?_eq_some.1 hv).2 l).1 hl with hl | hl
      · exact hu l hl
      · exact hw l hl

/-- A literal of a well-formed term joins every part of it. -/
lemma exists_conjoin?_literal (ht : t.WellFormed) (hu : u ⊆ t) (hl : l ∈ t.literals) :
    ∃ v, u.conjoin? ⟨.singleton l⟩ = some v ∧ v ⊆ t ∧
      ∀ m, m ∈ v.literals ↔ m ∈ u.literals ∨ m = l := by
  have hlt : (⟨.singleton l⟩ : Term) ⊆ t := OrderedSet.forall_mem_singleton.2 hl
  obtain ⟨v, hv, hvt⟩ := ht.exists_conjoin? hu hlt
  refine ⟨v, hv, hvt, fun m => ?_⟩
  rw [(conjoin?_eq_some.1 hv).2 m, OrderedSet.mem_singleton]

lemma singleton (htrue : l.atom ≠ Formula.trueName) (hfalse : l.atom ≠ Formula.falseName) :
    (⟨.singleton l⟩ : Term).WellFormed := by
  constructor
  · intro m hm hmc
    rw [OrderedSet.mem_singleton.1 hm] at hmc
    exact Literal.complement_ne l (OrderedSet.mem_singleton.1 hmc)
  · intro m hm
    rw [OrderedSet.mem_singleton.1 hm]
    exact ⟨htrue, hfalse⟩

lemma ofLiteral? (h : ofLiteral? l = some t) : t.WellFormed := by
  rcases ofLiteral?_eq_some.1 h with ⟨-, -, rfl⟩ | ⟨-, -, rfl⟩ | ⟨htrue, hfalse, rfl⟩
  · exact empty
  · exact empty
  · exact singleton htrue hfalse

/-- The literals are conjoined one after the other, and each step keeps the invariant. -/
lemma ofLiterals? {ls : List Literal} (h : ofLiterals? ls = some t) : t.WellFormed := by
  have run : ∀ (ls : List Literal) (u : Term), u.WellFormed →
      ls.foldlM (fun t l => do t.conjoin? (← Term.ofLiteral? l)) u = some t → t.WellFormed := by
    intro ls
    induction ls with
    | nil =>
        intro u hu hrun
        rw [List.foldlM_nil] at hrun
        cases hrun
        exact hu
    | cons l ls ih =>
        intro u hu hrun
        rw [List.foldlM_cons, Option.bind_eq_bind, Option.bind_eq_some_iff] at hrun
        obtain ⟨v, hv, hrun⟩ := hrun
        rw [Option.bind_eq_some_iff] at hv
        obtain ⟨w, hw, hv⟩ := hv
        exact ih v (hu.conjoin? (ofLiteral? hw) hv) hrun
  exact run ls _ empty h

end WellFormed

end Term

end GradedQuery
