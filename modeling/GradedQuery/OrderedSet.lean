/-!
# Ordered sets

A finite set over a linearly ordered type, kept as its strictly ascending list of members.  A
strictly ascending list is determined by its members, so **two ordered sets with the same members
are equal values** (`OrderedSet.ext_mem`), and every traversal meets the members in one canonical
order.  Terms, disjunctive normal forms, atom lists and sets of attribute names are all of this
kind: their printed form depends on the order, and their meaning only on the members.

`mem_insert`, `mem_erase`, `mem_union` and `mem_ofList` say what each operation does to the
members; nothing else about the operations is needed later.
-/

namespace GradedQuery

open Std

/-- A finite set, as the strictly ascending list of its members. -/
structure OrderedSet (α : Type) [Ord α] where
  toList : List α
  ascending : toList.Pairwise (compare · · = .lt)

namespace OrderedSet

variable {α : Type} [Ord α]

instance : Membership α (OrderedSet α) := ⟨fun s a => a ∈ s.toList⟩

theorem mem_def {a : α} {s : OrderedSet α} : a ∈ s ↔ a ∈ s.toList := Iff.rfl

instance [DecidableEq α] (a : α) (s : OrderedSet α) : Decidable (a ∈ s) :=
  inferInstanceAs (Decidable (a ∈ s.toList))

instance [DecidableEq α] : DecidableEq (OrderedSet α) := fun s t =>
  if h : s.toList = t.toList then
    .isTrue (by cases s; cases t; cases h; rfl)
  else .isFalse fun e => h (congrArg toList e)

/-- Sets are ordered as their lists of members are, lexicographically. -/
instance : Ord (OrderedSet α) := ⟨compareOn toList⟩

/-- The set without members. -/
def empty : OrderedSet α := ⟨[], .nil⟩

instance : EmptyCollection (OrderedSet α) := ⟨empty⟩
instance : Inhabited (OrderedSet α) := ⟨empty⟩

/-- The number of members. -/
def size (s : OrderedSet α) : Nat := s.toList.length

/-- Whether there is no member. -/
def isEmpty (s : OrderedSet α) : Bool := s.toList.isEmpty

/-- The set with the single member `a`. -/
def singleton (a : α) : OrderedSet α := ⟨[a], List.pairwise_singleton _ a⟩

/-- The members that satisfy `p`. -/
def filter (p : α → Bool) (s : OrderedSet α) : OrderedSet α :=
  ⟨s.toList.filter p, s.ascending.filter p⟩

/-- The set without `a`. -/
def erase [DecidableEq α] (s : OrderedSet α) (a : α) : OrderedSet α := s.filter (· != a)

/-- Whether every member of `s` is a member of `t`. -/
def subset [DecidableEq α] (s t : OrderedSet α) : Bool := s.toList.all (· ∈ t)

/-! ## Insertion

The place of a new member is found by comparing it with the members in order; an equal member is
left as it is. -/

/-- Puts `a` into its place in an ascending list. -/
def place (a : α) : List α → List α
  | [] => [a]
  | b :: rest =>
    match compare a b with
    | .lt => a :: b :: rest
    | .eq => b :: rest
    | .gt => b :: place a rest

theorem mem_of_mem_place {a x : α} {l : List α} (h : x ∈ place a l) : x = a ∨ x ∈ l := by
  induction l with
  | nil => exact .inl (List.mem_singleton.1 h)
  | cons b rest ih =>
    simp only [place] at h
    split at h
    · simpa using h
    · exact .inr h
    · rcases List.mem_cons.1 h with rfl | h
      · exact .inr List.mem_cons_self
      · rcases ih h with rfl | h
        · exact .inl rfl
        · exact .inr (List.mem_cons_of_mem _ h)

theorem ascending_place [TransOrd α] (a : α) {l : List α}
    (h : l.Pairwise (compare · · = .lt)) : (place a l).Pairwise (compare · · = .lt) := by
  induction l with
  | nil => exact List.pairwise_singleton _ a
  | cons b rest ih =>
    have hb := List.pairwise_cons.1 h
    simp only [place]
    split
    · next hab =>
      refine List.pairwise_cons.2 ⟨fun c hc => ?_, h⟩
      rcases List.mem_cons.1 hc with rfl | hc
      · exact hab
      · exact TransCmp.lt_trans hab (hb.1 c hc)
    · exact h
    · next hab =>
      refine List.pairwise_cons.2 ⟨fun c hc => ?_, ih hb.2⟩
      rcases mem_of_mem_place hc with rfl | hc
      · exact OrientedCmp.lt_of_gt hab
      · exact hb.1 c hc

theorem mem_place [TransOrd α] [LawfulEqOrd α] {a x : α} {l : List α} :
    x ∈ place a l ↔ x = a ∨ x ∈ l := by
  refine ⟨mem_of_mem_place, fun h => ?_⟩
  induction l with
  | nil => simpa [place] using h
  | cons b rest ih =>
    simp only [place]
    split
    · simpa using h
    · next hab =>
      have := LawfulEqCmp.eq_of_compare hab
      grind
    · grind

/-- The set with `a` added. -/
def insert [TransOrd α] (s : OrderedSet α) (a : α) : OrderedSet α :=
  ⟨place a s.toList, ascending_place a s.ascending⟩

/-- The set of the members of a list. -/
def ofList [TransOrd α] (l : List α) : OrderedSet α := l.foldl insert ∅

/-- The members of either set. -/
def union [TransOrd α] (s t : OrderedSet α) : OrderedSet α := t.toList.foldl insert s

/-! ## Members -/

@[simp] theorem not_mem_empty (a : α) : ¬ a ∈ (∅ : OrderedSet α) := List.not_mem_nil

@[simp] theorem mem_singleton {a x : α} : x ∈ singleton a ↔ x = a := List.mem_singleton

@[simp] theorem mem_filter {p : α → Bool} {s : OrderedSet α} {x : α} :
    x ∈ s.filter p ↔ x ∈ s ∧ p x = true := List.mem_filter

@[simp] theorem mem_erase [DecidableEq α] {s : OrderedSet α} {a x : α} :
    x ∈ s.erase a ↔ x ∈ s ∧ x ≠ a := by simp [erase]

@[simp] theorem subset_iff [DecidableEq α] {s t : OrderedSet α} :
    s.subset t = true ↔ ∀ a ∈ s, a ∈ t := by simp [subset, mem_def]

@[simp] theorem mem_insert [TransOrd α] [LawfulEqOrd α] {s : OrderedSet α} {a x : α} :
    x ∈ s.insert a ↔ x = a ∨ x ∈ s := mem_place

theorem mem_foldl_insert [TransOrd α] [LawfulEqOrd α] {l : List α} {s : OrderedSet α} {x : α} :
    x ∈ l.foldl insert s ↔ x ∈ s ∨ x ∈ l := by
  induction l generalizing s with
  | nil => simp
  | cons a l ih => simp [ih, or_assoc, or_left_comm]

@[simp] theorem mem_ofList [TransOrd α] [LawfulEqOrd α] {l : List α} {x : α} :
    x ∈ ofList l ↔ x ∈ l := by simp [ofList, mem_foldl_insert]

@[simp] theorem mem_union [TransOrd α] [LawfulEqOrd α] {s t : OrderedSet α} {x : α} :
    x ∈ s.union t ↔ x ∈ s ∨ x ∈ t := mem_foldl_insert

/-! ## Equality is having the same members -/

theorem eq_of_ascending [TransOrd α] {l m : List α} (hl : l.Pairwise (compare · · = .lt))
    (hm : m.Pairwise (compare · · = .lt)) (h : ∀ x, x ∈ l ↔ x ∈ m) : l = m := by
  have irreflexive : ∀ {a b : α}, compare a b = .lt → compare b a = .lt → False :=
    fun hab hba => by simp [OrientedCmp.gt_of_lt hab] at hba
  induction l generalizing m with
  | nil =>
    cases m with
    | nil => rfl
    | cons b m => exact absurd ((h b).2 List.mem_cons_self) List.not_mem_nil
  | cons a l ih =>
    cases m with
    | nil => exact absurd ((h a).1 List.mem_cons_self) List.not_mem_nil
    | cons b m =>
      have hl' := List.pairwise_cons.1 hl
      have hm' := List.pairwise_cons.1 hm
      have hab : a = b := by
        rcases List.mem_cons.1 ((h a).1 List.mem_cons_self) with e | ha
        · exact e
        · rcases List.mem_cons.1 ((h b).2 List.mem_cons_self) with e | hb
          · exact e.symm
          · exact (irreflexive (hm'.1 a ha) (hl'.1 b hb)).elim
      subst hab
      refine congrArg (a :: ·) (ih hl'.2 hm'.2 fun x => ?_)
      have lt_self : ∀ {c}, compare a c = .lt → c ≠ a := fun hc e => by
        subst e; exact irreflexive hc hc
      have hx := h x
      simp only [List.mem_cons] at hx
      constructor
      · intro hxl
        exact (hx.1 (.inr hxl)).resolve_left (lt_self (hl'.1 x hxl))
      · intro hxm
        exact (hx.2 (.inr hxm)).resolve_left (lt_self (hm'.1 x hxm))

/-- **Two ordered sets with the same members are equal.** -/
theorem ext_mem [TransOrd α] {s t : OrderedSet α} (h : ∀ x, x ∈ s ↔ x ∈ t) : s = t := by
  cases s; cases t
  congr
  exact eq_of_ascending ‹_› ‹_› h

/-! ## The order of sets is a linear order too -/

instance [TransOrd α] : TransOrd (OrderedSet α) :=
  inferInstanceAs (TransCmp (compareOn toList))

instance [LawfulEqOrd α] : LawfulEqOrd (OrderedSet α) where
  compare_self {s} := show compare s.toList s.toList = .eq from ReflCmp.compare_self
  eq_of_compare {s t} h := by
    replace h : compare s.toList t.toList = .eq := h
    have := LawfulEqCmp.eq_of_compare h
    cases s; cases t; cases this; rfl

end OrderedSet

end GradedQuery
