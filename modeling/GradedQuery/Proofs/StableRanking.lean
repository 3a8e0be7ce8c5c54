import GradedQuery.Proofs.ExactScores
import GradedQuery.Ranking

/-!
# Rankings are stable

A ranking sorts the objects by their scores only, and what it does with equal scores is decided by
the sort.  **`pairwise_bestFirst`** says what that is: of two positions the one with the greater
score comes first, and of two with the same score the one that was given first (`Precedes`).  The
sort keeps every ascending part of a list, and the positions with one score are such a part
(`filter_bestFirst`).

It is positions that are sorted here and not the entries of the ranking: two entries may be equal,
and the comparison of entries is an order only because no score is ever anything but a number
(`evaluate_eq_score`).  Each position has one *place* in the ranking, `place` is a permutation, and
**the order of the places is `Precedes`**.  All that a ranking cut off at some length drops is
therefore preceded by all that it keeps.
-/

namespace GradedQuery

open Extended

/-! ## Positions by score -/

section

variable {n : Nat} (score : Fin n → ℚ)

/-- Whether position `i` is ranked before position `j`: it has the greater score, or the same score
and comes first. -/
def Precedes (i j : Fin n) : Prop := score j < score i ∨ score i = score j ∧ i < j

/-- The positions, those with the best scores first. -/
def bestFirst : List (Fin n) := (List.finRange n).mergeSort fun i j => decide (score j ≤ score i)

variable {score} {i j : Fin n}

lemma Precedes.not_precedes (h : Precedes score i j) : ¬ Precedes score j i := by
  rintro (hlt | ⟨heq, hlt⟩) <;> rcases h with hlt' | ⟨heq', hlt'⟩
  · exact lt_asymm hlt hlt'
  · exact hlt.ne heq'
  · exact hlt'.ne heq
  · exact lt_asymm hlt hlt'

variable (score)

lemma bestFirst_perm : (bestFirst score).Perm (List.finRange n) := List.mergeSort_perm _ _

lemma nodup_bestFirst : (bestFirst score).Nodup :=
  (bestFirst_perm score).nodup_iff.2 (List.nodup_finRange n)

lemma length_bestFirst : (bestFirst score).length = n := by
  rw [(bestFirst_perm score).length_eq, List.length_finRange]

lemma mem_bestFirst (i : Fin n) : i ∈ bestFirst score :=
  (bestFirst_perm score).mem_iff.2 (List.mem_finRange i)

lemma decide_le_trans (i j k : Fin n) (hij : decide (score j ≤ score i) = true)
    (hjk : decide (score k ≤ score j) = true) : decide (score k ≤ score i) = true := by
  rw [decide_eq_true_eq] at hij hjk ⊢
  exact hjk.trans hij

lemma decide_le_total (i j : Fin n) :
    (decide (score j ≤ score i) || decide (score i ≤ score j)) = true := by
  rw [Bool.or_eq_true, decide_eq_true_eq, decide_eq_true_eq]
  exact le_total _ _

lemma pairwise_score_bestFirst :
    (bestFirst score).Pairwise fun i j => score j ≤ score i := by
  have hsorted := List.pairwise_mergeSort (decide_le_trans score) (decide_le_total score)
    (List.finRange n)
  rw [bestFirst]
  simpa only [decide_eq_true_eq] using hsorted

/-- **Positions with one score stay in their order.**  They are an ascending part of all positions,
which sorting keeps, and there are no others with that score. -/
lemma filter_bestFirst (q : ℚ) :
    (bestFirst score).filter (score · = q) = (List.finRange n).filter (score · = q) := by
  have hsame : ((List.finRange n).filter (score · = q)).Pairwise fun i j =>
      decide (score j ≤ score i) = true := by
    refine List.pairwise_of_forall_mem_list fun i hi j hj => ?_
    rw [List.mem_filter, decide_eq_true_eq] at hi hj
    rw [decide_eq_true_eq, hi.2, hj.2]
  have hkept : ((List.finRange n).filter (score · = q)).Sublist (bestFirst score) :=
    List.sublist_mergeSort (decide_le_trans score) (decide_le_total score) hsame
      List.filter_sublist
  have hfilter := hkept.filter (score · = q)
  simp only [List.filter_filter, Bool.and_self] at hfilter
  exact (hfilter.eq_of_length ((bestFirst_perm score).filter _).length_eq.symm).symm

/-- **The positions are ordered by `Precedes`.** -/
lemma pairwise_bestFirst : (bestFirst score).Pairwise (Precedes score) := by
  rw [List.pairwise_iff_forall_sublist]
  intro i j hij
  have hle : score j ≤ score i :=
    List.pairwise_iff_forall_sublist.1 (pairwise_score_bestFirst score) hij
  rcases hle.lt_or_eq with hlt | heq
  · exact Or.inl hlt
  · have hfilter := hij.filter (score · = score i)
    rw [filter_bestFirst] at hfilter
    have hpair : [i, j].filter (score · = score i) = [i, j] := by simp [heq]
    rw [hpair] at hfilter
    have hfinRange := hfilter.trans List.filter_sublist
    exact Or.inr ⟨heq.symm, List.pairwise_iff_forall_sublist.1 (List.pairwise_lt_finRange n) hfinRange⟩

/-! ## Places -/

/-- The place at which a position stands. -/
def place : Equiv.Perm (Fin n) :=
  ((nodup_bestFirst score).getEquivOfForallMemList _ (mem_bestFirst score)).symm.trans
    (finCongr (length_bestFirst score))

lemma getElem?_place (i : Fin n) : (bestFirst score)[(place score i : ℕ)]? = some i :=
  List.getElem?_idxOf (mem_bestFirst score i)

/-- **The order of the places is the order of the scores, and of the positions among equals.** -/
lemma place_lt_place_iff : place score i < place score j ↔ Precedes score i j := by
  have hmono : ∀ {i j}, place score i < place score j → Precedes score i j := by
    intro i j hij
    have hi := List.getElem?_eq_some_iff.1 (getElem?_place score i)
    have hj := List.getElem?_eq_some_iff.1 (getElem?_place score j)
    have hpair := List.pairwise_iff_getElem.1 (pairwise_bestFirst score) _ _ hi.1 hj.1 hij
    rwa [hi.2, hj.2] at hpair
  refine ⟨hmono, fun hprec => ?_⟩
  have hne : place score i ≠ place score j := fun heq =>
    hprec.not_precedes ((place score).injective heq ▸ hprec)
  exact hne.lt_of_le (not_lt.1 fun hlt => hprec.not_precedes (hmono hlt))

end

/-! ## Rankings -/

section

variable (schema : Schema) (naming : Naming) (objects : List (ScoredObject Extended)) (f : Formula)

/-- The entry of a ranking for an object. -/
def entryOf (object : ScoredObject Extended) : Ranked Extended :=
  ⟨object.name, finite (f.score (atomGrade schema naming object.scores))⟩

/-- The score of the object at a position. -/
def scoreAt (i : Fin objects.length) : ℚ :=
  f.score (atomGrade schema naming objects[i].scores)

/-- **A ranking lists the entries of the positions, those with the best scores first.** -/
lemma rank_eq (hf : f.isExpanded = true) :
    rank schema naming f objects =
      .ok ((bestFirst (scoreAt schema naming objects f)).map
        fun i => entryOf schema naming f objects[i]) := by
  -- no evaluation fails
  have hentries : objects.mapM (fun object => do
      return ⟨object.name, ← evaluate schema naming object.scores f⟩) =
      (.ok (objects.map (entryOf schema naming f)) : Except QueryError _) := by
    simp only [evaluate_eq_score schema naming _ hf]
    exact List.mapM_pure
  have hpositions : objects.map (entryOf schema naming f) =
      (List.finRange objects.length).map fun i => entryOf schema naming f objects[i] := by
    conv_lhs => rw [← List.map_getElem_finRange objects, List.map_map]
    rfl
  have hprecede : ∀ i ∈ List.finRange objects.length, ∀ j ∈ List.finRange objects.length,
      decide (scoreAt schema naming objects f j ≤ scoreAt schema naming objects f i) =
        (entryOf schema naming f objects[i]).mayPrecede (entryOf schema naming f objects[j]) := by
    intro i _ j _
    rw [Ranked.mayPrecede, entryOf, entryOf, less_finite, ← decide_not, decide_eq_decide, not_lt]
    rfl
  rw [rank, hentries, hpositions, bestFirst, List.map_mergeSort hprecede]
  rfl

/-- **A ranking is the stable descending order.**  It has one entry for every object, with the
object's own score, a place is before another one exactly if the object there has the greater score
or, with the same score, was given first, and a limit keeps the first places. -/
theorem rank_stable (hf : f.isExpanded = true) :
    ∃ (ranked : List (Ranked Extended)) (score : Fin objects.length → ℚ)
      (placeOf : Equiv.Perm (Fin objects.length)),
      rank schema naming f objects = .ok ranked ∧ ranked.length = objects.length ∧
      (∀ i : Fin objects.length,
        evaluate schema naming objects[i].scores f = .ok (finite (score i)) ∧
          ranked[(placeOf i : ℕ)]? = some ⟨objects[i].name, finite (score i)⟩) ∧
      (∀ i j, placeOf i < placeOf j ↔ score j < score i ∨ score i = score j ∧ i < j) ∧
      ∀ limit, (ranked.take limit).length = min limit objects.length ∧
        (∀ i : Fin objects.length, (placeOf i : ℕ) < limit →
          (ranked.take limit)[(placeOf i : ℕ)]? = some ⟨objects[i].name, finite (score i)⟩) ∧
        ∀ i j, (placeOf i : ℕ) < limit → limit ≤ placeOf j →
          score j < score i ∨ score i = score j ∧ i < j := by
  set score := scoreAt schema naming objects f
  set ranked := (bestFirst score).map fun i => entryOf schema naming f objects[i]
  have hlength : ranked.length = objects.length := by
    rw [List.length_map, length_bestFirst]
  have hentry : ∀ i : Fin objects.length, ranked[(place score i : ℕ)]? =
      some ⟨objects[i].name, finite (score i)⟩ := by
    intro i
    rw [List.getElem?_map, getElem?_place]
    rfl
  refine ⟨ranked, score, place score, rank_eq schema naming objects f hf, hlength,
    fun i => ⟨evaluate_eq_score schema naming _ hf, hentry i⟩,
    fun i j => place_lt_place_iff score, fun limit => ⟨?_, fun i hi => ?_, fun i j hi hj => ?_⟩⟩
  · rw [List.length_take, hlength]
  · rw [List.getElem?_take_of_lt hi, hentry]
  · exact (place_lt_place_iff score).1 (Fin.lt_def.2 (hi.trans_le hj))

/-- Two objects of one name, two with one score, and scores that are infinite and no number. -/
theorem rank_stable_ties :
    let f : Formula := .not (.atom "a")
    let objects : List (ScoredObject Extended) :=
      [⟨"x", .ofList [("a", posInf)]⟩, ⟨"x", .ofList [("a", finite (1 / 2))]⟩,
        ⟨"y", .ofList [("a", nan)]⟩, ⟨"z", .ofList [("a", finite (1 / 2))]⟩]
    let ranked : List (Ranked Extended) :=
      [⟨"y", finite 1⟩, ⟨"x", finite (1 / 2)⟩, ⟨"z", finite (1 / 2)⟩, ⟨"x", finite 0⟩]
    f.isExpanded = true ∧ rank .empty (fun a => a) f objects = .ok ranked ∧
      ∃ placeOf : Equiv.Perm (Fin 4),
        (∀ i : Fin 4, (ranked[(placeOf i : ℕ)]?).map Ranked.name = some objects[i].name) ∧
          placeOf 2 < placeOf 1 ∧ placeOf 1 < placeOf 3 ∧ placeOf 3 < placeOf 0 := by
  intro f objects ranked
  have hrank : rank .empty (fun a => a) f objects = .ok ranked := by unfold ranked; cbv
  obtain ⟨ranked', score, placeOf, hrank', -, hentries, hplaces, -⟩ :=
    rank_stable .empty (fun a => a) objects f rfl
  obtain rfl : ranked = ranked' := Except.ok.inj (hrank.symm.trans hrank')
  have hscore : ∀ (i : Fin 4) q, evaluate .empty (fun a => a) objects[i].scores f = .ok (finite q) →
      score i = q := fun i q hq =>
    Extended.finite.inj (Except.ok.inj ((hentries i).1.symm.trans hq))
  have h0 : score (0 : Fin 4) = 0 := hscore 0 0 (by cbv)
  have h1 : score (1 : Fin 4) = 1 / 2 := hscore 1 (1 / 2) (by cbv)
  have h2 : score (2 : Fin 4) = 1 := hscore 2 1 (by cbv)
  have h3 : score (3 : Fin 4) = 1 / 2 := hscore 3 (1 / 2) (by cbv)
  refine ⟨rfl, hrank, placeOf, fun i => ?_, (hplaces _ _).2 (Or.inl ?_),
    (hplaces _ _).2 (Or.inr ⟨?_, ?_⟩), (hplaces _ _).2 (Or.inl ?_)⟩
  · rw [(hentries i).2]
    rfl
  · rw [h1, h2]
    norm_num
  · rw [h1, h3]
  · decide
  · rw [h0, h3]
    norm_num

end

end GradedQuery
