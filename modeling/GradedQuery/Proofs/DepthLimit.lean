import GradedQuery.Proofs.OverlapFree
import Mathlib

/-!
# The depth limit

When the levels run out, a normal form whose attributes overlap is left as it is, and the run goes
on with the other branches.  Nothing in the result tells such a leaf from the others, so what the
limit has cost must be in the events: **`exists_depthExhausted_of_overlap`** says that no overlap is
left without a warning.  The converse does not hold, as the attributes of a leaf may overlap while
its terms exclude each other.

A run without a warning does not depend on its limit.  Depths are counted from the top, so that more
levels add nothing to a run that did not use up the ones it had (`Splits.of_not_exhausted`).  And
however large the limit is, **a run goes no deeper than there are ordinal atoms**
(`Splits.depth_lt`), since each split takes one of them out of both branches.
-/

namespace GradedQuery.Dnf

variable {d e : Dnf} {opts : SplitOptions} {naming : Naming} {n : Nat} {events : List Event}

/-- **No overlap is left silently**: normalization ends, and if its result is not overlap-free, then
a warning was reported that the depth is exhausted, for a normal form of two terms at least. -/
theorem exists_depthExhausted_of_overlap (hd : d.Built) (opts : SplitOptions) (naming : Naming) :
    ∃ e, (d.normalize opts naming).outcome = .ok e ∧
      (e.isOverlapFree opts naming = false →
        ∃ terms, 2 ≤ terms ∧
          .depthExhausted opts.maxDepth terms ∈ (d.normalize opts naming).events) := by
  rcases normalize_cases opts naming d with ⟨hfree, hnorm⟩ | ⟨e, events, hnorm, hrun⟩
  · refine ⟨d, by rw [hnorm], fun hover => ?_⟩
    rw [hfree] at hover
    exact absurd hover (by decide)
  · rw [hnorm]
    exact ⟨e, rfl, hrun.exists_depthExhausted hd.wellFormed⟩

/-- Two atoms on one attribute, where no case may be split. -/
theorem exists_depthExhausted_of_overlap_unsplit :
    let d := (ofLiteral (.positive "a")).or (ofLiteral (.positive "b"))
    let opts : SplitOptions := ⟨.singleton "q", 0⟩
    d.Built ∧ (d.normalize opts fun _ => "q").outcome = .ok d ∧
      d.isOverlapFree opts (fun _ => "q") = false ∧
      ∃ terms, 2 ≤ terms ∧ .depthExhausted 0 terms ∈ (d.normalize opts fun _ => "q").events := by
  intro d opts
  have hbuilt : d.Built := .or (.ofLiteral _) (.ofLiteral _)
  have hover : d.isOverlapFree opts (fun _ => "q") = false := by cbv
  obtain ⟨e, he, hreport⟩ := exists_depthExhausted_of_overlap hbuilt opts fun _ => "q"
  have hnorm : (d.normalize opts fun _ => "q").outcome = .ok d := by cbv
  rw [hnorm] at he
  cases he
  exact ⟨hbuilt, hnorm, hover, hreport hover⟩

/-! ## Runs that the limit does not cut off -/

/-- **A run that was not cut off is a run with more levels too**, with the same events. -/
lemma Splits.of_not_exhausted (h : Splits opts naming n d e events)
    (hfull : ∀ limit terms, .depthExhausted limit terms ∉ events) (k : Nat) :
    Splits ⟨opts.ordinal, opts.maxDepth + k⟩ naming (n + k) d e events := by
  induction h with
  | flat hempty => exact .flat hempty
  | exhausted _ => exact absurd List.mem_cons_self (hfull _ _)
  | @cases n d p q l pos neg hover hl _ _ ihp ihq =>
      have hpos : ∀ limit terms, .depthExhausted limit terms ∉ pos := fun limit terms hmem =>
        hfull limit terms (List.mem_cons_of_mem _ (List.mem_append_left _ hmem))
      have hneg : ∀ limit terms, .depthExhausted limit terms ∉ neg := fun limit terms hmem =>
        hfull limit terms (List.mem_cons_of_mem _ (List.mem_append_right _ hmem))
      -- the limit and the levels left grow alike, and the depth is their difference
      have hdepth : opts.maxDepth - (n + 1) = opts.maxDepth + k - (n + k + 1) := by omega
      rw [hdepth, Nat.add_right_comm]
      exact .cases hover hl (ihp hpos) (ihq hneg)

/-- **Every split is at a depth below the limit, and no deeper than there are ordinal atoms**,
counted from where the run starts: with `n` levels left, that is at depth `opts.maxDepth - n`. -/
lemma Splits.depth_lt {o : Literal} {depth terms : Nat} (h : Splits opts naming n d e events)
    (hn : n ≤ opts.maxDepth) (hmem : .splitting o depth terms ∈ events) :
    depth < opts.maxDepth ∧ depth + n < opts.maxDepth + (d.ordinalAtoms opts naming).size := by
  induction h with
  | flat _ => exact absurd hmem List.not_mem_nil
  | exhausted _ =>
      rw [List.mem_singleton] at hmem
      cases hmem
  | @cases n d p q l pos neg hover hl hp hq ihp ihq =>
      have hl' := splitLiteral_mem_ordinalAtoms hl
      have hpos := ordinalAtoms_cofactor_lt (o := l.positiveForm) hl'
      have hneg := ordinalAtoms_cofactor_lt (o := l.positiveForm.complement) hl'
      rw [List.mem_cons, List.mem_append] at hmem
      rcases hmem with heq | hmem | hmem
      · cases heq
        omega
      · have hdepth := ihp (by omega) hmem
        omega
      · have hdepth := ihq (by omega) hmem
        omega

/-- **The limit matters only where it is hit.**  Without a warning that the depth is exhausted every
larger limit gives the same normal form with the same events; and in any run every split is at a
depth below the limit and below the number of ordinal atoms. -/
theorem normalize_eq_of_not_exhausted (d : Dnf) (ordinal : OrderedSet String) (naming : Naming)
    (k : Nat) :
    ∃ e events, d.normalize ⟨ordinal, k⟩ naming = ⟨.ok e, events⟩ ∧
      ((∀ limit terms, .depthExhausted limit terms ∉ events) →
        ∀ k', k ≤ k' → d.normalize ⟨ordinal, k'⟩ naming = ⟨.ok e, events⟩) ∧
      ∀ o depth terms, .splitting o depth terms ∈ events →
        depth < k ∧ depth < (d.ordinalAtoms ⟨ordinal, k⟩ naming).size := by
  cases hfree : d.isOverlapFree ⟨ordinal, k⟩ naming with
  | true =>
      refine ⟨d, _, normalize_of_isOverlapFree hfree,
        fun _ k' _ => normalize_of_isOverlapFree hfree, fun o depth terms hmem => ?_⟩
      rw [List.mem_singleton] at hmem
      cases hmem
  | false =>
      obtain ⟨e, events, hsplit, hrun⟩ := splits_split ⟨ordinal, k⟩ naming k d
      refine ⟨e, events, (normalize_of_overlap hfree).trans hsplit, ?_, ?_⟩
      · intro hfull k' hk
        obtain ⟨more, rfl⟩ := Nat.le.dest hk
        have hmore : d.isOverlapFree ⟨ordinal, k + more⟩ naming = false := hfree
        rw [normalize_of_overlap hmore]
        exact (hrun.of_not_exhausted hfull more).split_eq
      · intro o depth terms hmem
        obtain ⟨hlimit, hatoms⟩ := hrun.depth_lt (Nat.le_refl k) hmem
        rw [Nat.add_comm] at hatoms
        exact ⟨hlimit, Nat.lt_of_add_lt_add_left hatoms⟩

/-- Three atoms on one attribute: two levels are enough, and more make no difference. -/
theorem normalize_eq_of_not_exhausted_three :
    let d := ((ofLiteral (.positive "a")).or (ofLiteral (.positive "b"))).or
      (ofLiteral (.positive "c"))
    let events : List Event := [.splitting (.positive "a") 0 3, .splitting (.positive "b") 1 2]
    (∀ limit terms, .depthExhausted limit terms ∉ events) ∧
      (∃ e, ∀ k, 2 ≤ k → d.normalize ⟨.singleton "q", k⟩ (fun _ => "q") = ⟨.ok e, events⟩) ∧
      1 < 2 ∧ 1 < (d.ordinalAtoms ⟨.singleton "q", 2⟩ fun _ => "q").size := by
  intro d events
  have hfull : ∀ limit terms, .depthExhausted limit terms ∉ events := by simp [events]
  obtain ⟨e, reported, hnorm, hlarger, hdepth⟩ :=
    normalize_eq_of_not_exhausted d (.singleton "q") (fun _ => "q") 2
  have hevents : (d.normalize ⟨.singleton "q", 2⟩ (fun _ => "q")).events = events := by
    subst d events
    cbv
  rw [hnorm] at hevents
  obtain rfl : reported = events := hevents
  have hsecond : .splitting (.positive "b") 1 2 ∈ events := by simp [events]
  exact ⟨hfull, ⟨e, hlarger hfull⟩, hdepth _ 1 2 hsecond⟩

end GradedQuery.Dnf
