import GradedQuery.OrderedSet

/-!
# Ordered maps

A finite map with linearly ordered keys, kept as the list of its entries with strictly ascending
keys.  A look-up sees the latest value put under a key (`get?_insert`), and a traversal meets the
keys in ascending order, which is the order in which maps are printed.
-/

namespace GradedQuery

open Std

/-- A finite map, as the list of its entries in strictly ascending order of their keys. -/
structure OrderedMap (κ : Type) [Ord κ] (β : Type) where
  toList : List (κ × β)
  ascending : toList.Pairwise (compare ·.1 ·.1 = .lt)

namespace OrderedMap

variable {κ β : Type} [Ord κ]

theorem eq_of_toList {m n : OrderedMap κ β} (h : m.toList = n.toList) : m = n := by
  cases m
  cases n
  cases h
  rfl

instance [DecidableEq κ] [DecidableEq β] : DecidableEq (OrderedMap κ β) := fun m n =>
  if h : m.toList = n.toList then
    .isTrue (by cases m; cases n; cases h; rfl)
  else .isFalse fun e => h (congrArg toList e)

/-- The map without entries. -/
def empty : OrderedMap κ β := ⟨[], .nil⟩

instance : EmptyCollection (OrderedMap κ β) := ⟨empty⟩
instance : Inhabited (OrderedMap κ β) := ⟨empty⟩

/-- The number of entries. -/
def size (m : OrderedMap κ β) : Nat := m.toList.length

/-- Whether there is no entry. -/
def isEmpty (m : OrderedMap κ β) : Bool := m.toList.isEmpty

/-- The value that a list of entries holds under a key. -/
def lookup [DecidableEq κ] (k : κ) : List (κ × β) → Option β
  | [] => none
  | (k', v) :: rest => if k = k' then some v else lookup k rest

/-- The value under a key. -/
def get? [DecidableEq κ] (m : OrderedMap κ β) (k : κ) : Option β := lookup k m.toList

/-! ## Insertion -/

/-- Puts an entry into its place in an ascending list, in the stead of one with the same key. -/
def place (k : κ) (v : β) : List (κ × β) → List (κ × β)
  | [] => [(k, v)]
  | (k', v') :: rest =>
    match compare k k' with
    | .lt => (k, v) :: (k', v') :: rest
    | .eq => (k, v) :: rest
    | .gt => (k', v') :: place k v rest

theorem key_of_mem_place {k : κ} {v : β} {e : κ × β} {l : List (κ × β)} (h : e ∈ place k v l) :
    e = (k, v) ∨ e ∈ l := by
  induction l with
  | nil => exact .inl (List.mem_singleton.1 h)
  | cons b rest ih =>
    obtain ⟨k', v'⟩ := b
    simp only [place] at h
    split at h
    · simpa using h
    · exact (List.mem_cons.1 h).imp id (List.mem_cons_of_mem _)
    · rcases List.mem_cons.1 h with rfl | h
      · exact .inr List.mem_cons_self
      · exact (ih h).imp id (List.mem_cons_of_mem _)

theorem ascending_place [TransOrd κ] (k : κ) (v : β) {l : List (κ × β)}
    (h : l.Pairwise (compare ·.1 ·.1 = .lt)) : (place k v l).Pairwise (compare ·.1 ·.1 = .lt) := by
  induction l with
  | nil => exact List.pairwise_singleton _ _
  | cons b rest ih =>
    obtain ⟨k', v'⟩ := b
    have hb := List.pairwise_cons.1 h
    simp only [place]
    split
    · next hk =>
      refine List.pairwise_cons.2 ⟨fun c hc => ?_, h⟩
      rcases List.mem_cons.1 hc with rfl | hc
      · exact hk
      · exact TransCmp.lt_trans hk (hb.1 c hc)
    · next hk =>
      exact List.pairwise_cons.2
        ⟨fun c hc => TransCmp.lt_of_eq_of_lt hk (hb.1 c hc), hb.2⟩
    · next hk =>
      refine List.pairwise_cons.2 ⟨fun c hc => ?_, ih hb.2⟩
      rcases key_of_mem_place hc with rfl | hc
      · exact OrientedCmp.lt_of_gt hk
      · exact hb.1 c hc

/-- The map with `v` under `k`, whatever was there before. -/
def insert [TransOrd κ] (m : OrderedMap κ β) (k : κ) (v : β) : OrderedMap κ β :=
  ⟨place k v m.toList, ascending_place k v m.ascending⟩

/-- The map of a list of entries; of entries with equal keys the last one counts. -/
def ofList [TransOrd κ] (l : List (κ × β)) : OrderedMap κ β :=
  l.foldl (fun m e => m.insert e.1 e.2) ∅

theorem lookup_place [DecidableEq κ] [TransOrd κ] [LawfulEqOrd κ] (k x : κ) (v : β)
    (l : List (κ × β)) :
    lookup x (place k v l) = if x = k then some v else lookup x l := by
  induction l with
  | nil => simp [place, lookup]
  | cons b rest ih =>
    obtain ⟨k', v'⟩ := b
    simp only [place]
    split
    · simp [lookup]
    · next hk =>
      have := LawfulEqCmp.eq_of_compare hk
      grind [lookup]
    · next hk =>
      have : k ≠ k' := fun e => by
        subst e; simp [ReflCmp.compare_self] at hk
      grind [lookup]

/-- **A look-up sees the latest value put under its key.** -/
@[simp] theorem get?_insert [DecidableEq κ] [TransOrd κ] [LawfulEqOrd κ] (m : OrderedMap κ β)
    (k x : κ) (v : β) :
    (m.insert k v).get? x = if x = k then some v else m.get? x := lookup_place k x v m.toList

@[simp] theorem get?_empty [DecidableEq κ] (k : κ) : (∅ : OrderedMap κ β).get? k = none := rfl

/-! ## The entries of a map, put in again -/

/-- An entry with a key above all others comes last. -/
theorem place_of_lt [OrientedOrd κ] {k : κ} (v : β) {l : List (κ × β)}
    (h : ∀ e ∈ l, compare e.1 k = .lt) : place k v l = l ++ [(k, v)] := by
  induction l with
  | nil => rfl
  | cons b rest ih =>
    obtain ⟨k', v'⟩ := b
    obtain ⟨hb, hrest⟩ := List.forall_mem_cons.1 h
    simp only [place, OrientedCmp.gt_of_lt hb, ih hrest, List.cons_append]

theorem toList_foldl_insert [TransOrd κ] {m : OrderedMap κ β} {l : List (κ × β)}
    (h : (m.toList ++ l).Pairwise (compare ·.1 ·.1 = .lt)) :
    (l.foldl (fun m e => m.insert e.1 e.2) m).toList = m.toList ++ l := by
  induction l generalizing m with
  | nil => exact (List.append_nil _).symm
  | cons e rest ih =>
    have hlast : (m.insert e.1 e.2).toList = m.toList ++ [e] :=
      place_of_lt e.2 fun b hb =>
        (List.pairwise_append.1 h).2.2 b hb e List.mem_cons_self
    have happend : m.toList ++ e :: rest = (m.insert e.1 e.2).toList ++ rest := by
      rw [hlast, List.append_assoc, List.singleton_append]
    rw [List.foldl_cons, happend]
    exact ih (happend ▸ h)

/-- **A map is the map of its entries.** -/
theorem ofList_toList [TransOrd κ] (m : OrderedMap κ β) : ofList m.toList = m :=
  eq_of_toList (toList_foldl_insert (m := ∅) m.ascending)

end OrderedMap

end GradedQuery
