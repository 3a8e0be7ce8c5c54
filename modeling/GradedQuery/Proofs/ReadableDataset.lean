import GradedQuery.Proofs.DatasetRoundTrip

/-!
# Which written datasets are readable

Every list of objects is written, but not every one can be read again.  If numbers that are not
finite are written as `null`, and `null` is not read as a number, **it can exactly if all scores are
finite** (`Dataset.read_write_eq_ok_iff`).

An object with another score is refused, and the dataset for its first such object
(`Dataset.exists_read_eq_error`), so that the objects behind it are lost as well
(`Dataset.read_write_ne_ok`).
-/

namespace GradedQuery

variable {ε α β : Type}

/-- Whether all scores of an object are finite. -/
def ScoredObject.HasFiniteScores (object : ScoredObject Float) : Prop :=
  ∀ e ∈ object.scores.toList, e.2.isFinite = true

/-- The partner of an element stands behind those of the elements before it. -/
lemma exists_of_forall₂_append {R : α → β → Prop} {before after : List α} {a : α} {l : List β}
    (h : List.Forall₂ R (before ++ a :: after) l) :
    ∃ l₁ b l₂, l = l₁ ++ b :: l₂ ∧ List.Forall₂ R before l₁ ∧ R a b := by
  induction before generalizing l with
  | nil =>
      obtain ⟨b, l₂, ha, -, rfl⟩ := List.forall₂_cons_left_iff.1 h
      exact ⟨[], b, l₂, rfl, .nil, ha⟩
  | cons a' before ih =>
      obtain ⟨b', l', ha', hl', rfl⟩ := List.forall₂_cons_left_iff.1 h
      obtain ⟨l₁, b, l₂, rfl, hbefore, ha⟩ := ih hl'
      exact ⟨b' :: l₁, b, l₂, rfl, .cons ha' hbefore, ha⟩

namespace Dataset

variable {codec : Codec ε} {object : ScoredObject Float} {text : String}
  {before after objects : List (ScoredObject Float)} {texts : List String}

/-- **A dataset is refused for its first object that is not readable**, with the number of its line.
-/
lemma exists_read_eq_error (hc : codec.Lawful)
    (htexts : List.Forall₂ (codec.encode · = .ok ·) (before ++ object :: after) texts)
    (hlines : lines text.toUTF8.toList = texts.map (·.toUTF8.toList))
    (hbefore : ∀ object ∈ before, ∃ object', codec.ObjectReadAs object object')
    (h : ¬ ∃ object', codec.ObjectReadAs object object') :
    ∃ line error, codec.encode object = .ok line ∧ codec.decode line = .error error ∧
      read codec.decode text.toUTF8.toList = .error (.line (before.length + 1) error) := by
  obtain ⟨texts₁, line, texts₂, rfl, htexts₁, hline⟩ := exists_of_forall₂_append htexts
  obtain ⟨found, hfound⟩ := exists_forall₂_iff.2 hbefore
  cases hdecode : codec.decode line with
  | ok object' => exact absurd ⟨object', (hc.scoreByScore hline object').1 hdecode⟩ h
  | error error =>
      refine ⟨line, error, hline, hdecode, ?_⟩
      rw [read, items, hlines, mapM_itemsFrom_eq_error_iff]
      refine ⟨_, _, _, found, by rw [List.map_append, List.map_cons],
        (hc.haveObjects_iff htexts₁).2 hfound, ?_⟩
      rw [List.length_map, ← htexts₁.length_eq, Nat.zero_add]
      refine .undecodable rfl (hc.not_isBlank hline) ?_
      rwa [hc.trim_eq_self hline]

/-- **What has been written can be read exactly if all scores are finite**, if a number that is not
finite is written as `null`, `null` is not read as a number, and the finite scores are read as some
number.  Otherwise reading ends at the first object with another score, with the error for which its
line does not decode. -/
theorem read_write_eq_ok_iff (codec : Codec ε) (hc : codec.Lawful)
    (hnull : ∀ x : Float, ¬ x.isFinite = true → codec.writeNumber x = "null")
    (hrefused : ∀ y, codec.readNumber "null" ≠ .ok y) (objects : List (ScoredObject Float))
    (hnumbers : ∀ object ∈ objects, ∀ e ∈ object.scores.toList, e.2.isFinite = true →
      ∃ y, codec.readNumber (codec.writeNumber e.2) = .ok y) :
    ∃ text, write codec.encode objects = .ok text ∧
      ((∃ found, read codec.decode text.toUTF8.toList = .ok found) ↔
        ∀ object ∈ objects, object.HasFiniteScores) ∧
      ((∀ object ∈ objects, object.HasFiniteScores) ∨
        ∃ before object after line error, objects = before ++ object :: after ∧
          (∀ object ∈ before, object.HasFiniteScores) ∧ ¬ object.HasFiniteScores ∧
          codec.encode object = .ok line ∧ codec.decode line = .error error ∧
          read codec.decode text.toUTF8.toList = .error (.line (before.length + 1) error)) := by
  classical
  have hreadable : ∀ object ∈ objects,
      (∃ object', codec.ObjectReadAs object object') ↔ object.HasFiniteScores := by
    intro object ho
    rw [Codec.exists_objectReadAs_iff]
    refine forall₂_congr fun e he => ⟨?_, hnumbers object ho e he⟩
    rintro ⟨y, hy⟩
    by_contra hfinite
    rw [hnull _ hfinite] at hy
    exact hrefused y hy
  obtain ⟨text, texts, hwrite, htexts, hlines⟩ := exists_write hc objects
  refine ⟨text, hwrite, ?_, ?_⟩
  · simp only [read_eq_ok_iff_of_lines hc htexts hlines]
    rw [exists_forall₂_iff]
    exact forall₂_congr hreadable
  · cases hfind : objects.find? fun object => ¬ object.HasFiniteScores with
    | none => exact .inl (by simpa using hfind)
    | some object =>
        obtain ⟨hobject, before, after, rfl, hbefore⟩ := List.find?_eq_some_iff_append.1 hfind
        have hbefore : ∀ object ∈ before, object.HasFiniteScores := by simpa using hbefore
        have hobject : ¬ object.HasFiniteScores := by simpa using hobject
        obtain ⟨line, error, hline, hdecode, herror⟩ := exists_read_eq_error hc htexts hlines
          (fun object ho => (hreadable object (List.mem_append_left _ ho)).2 (hbefore object ho))
          (mt (hreadable object List.mem_append_cons_self).1 hobject)
        exact .inr ⟨before, object, after, line, error, rfl, hbefore, hobject, hline, hdecode,
          herror⟩

/-- The scores of an object with a single one. -/
lemma hasFiniteScores_ofList_iff {name atom : String} {x : Float} :
    ScoredObject.HasFiniteScores ⟨name, .ofList [(atom, x)]⟩ ↔ x.isFinite = true := by
  have hscores : (OrderedMap.ofList [(atom, x)]).toList = [(atom, x)] := rfl
  rw [ScoredObject.HasFiniteScores, hscores, List.forall_mem_singleton]

/-- Of these two objects the first one could be read, but the second one has a score that is not a
number. -/
theorem read_write_ne_ok_second :
    let codec := ScoredObject.jsonCodec
    let objects : List (ScoredObject Float) :=
      [⟨"A", .ofList [("x", 0.6)]⟩, ⟨"B", .ofList [("x", 0.0 / 0.0)]⟩]
    codec.Lawful ∧ (∀ x : Float, ¬ x.isFinite = true → codec.writeNumber x = "null") ∧
      (∀ y, codec.readNumber "null" ≠ .ok y) ∧
      (∀ object ∈ objects, ∀ e ∈ object.scores.toList, e.2.isFinite = true →
        ∃ y, codec.readNumber (codec.writeNumber e.2) = .ok y) ∧
      ∃ text, write codec.encode objects = .ok text ∧
        ∀ found, read codec.decode text.toUTF8.toList ≠ .ok found := by
  intro codec objects
  have hnull (x : Float) (hx : ¬ x.isFinite = true) : codec.writeNumber x = "null" :=
    ScoredObject.jsonCodec_writeNumber_of_not_isFinite hx
  have hscores : ∀ object ∈ objects, ∀ e ∈ object.scores.toList,
      e.2 = 0.6 ∨ e.2.isFinite = false := by decide +kernel
  have hnumbers : ∀ object ∈ objects, ∀ e ∈ object.scores.toList, e.2.isFinite = true →
      ∃ y, codec.readNumber (codec.writeNumber e.2) = .ok y := by
    intro object ho e he hfinite
    rcases hscores object ho e he with hvalue | hnot
    · rw [hvalue]
      exact ⟨0.6, ScoredObject.jsonCodec_readNumber_six_tenths⟩
    · rw [hfinite] at hnot
      cases hnot
  obtain ⟨text, hwrite, hiff, -⟩ := read_write_eq_ok_iff codec ScoredObject.jsonCodec_lawful hnull
    ScoredObject.jsonCodec_readNumber_null objects hnumbers
  refine ⟨ScoredObject.jsonCodec_lawful, hnull, ScoredObject.jsonCodec_readNumber_null, hnumbers,
    text, hwrite, fun found h => ?_⟩
  have hall := hiff.1 ⟨found, h⟩ _ (List.mem_cons_of_mem _ List.mem_cons_self)
  exact absurd (hasFiniteScores_ofList_iff.1 hall) (by decide +kernel)

/-- A single score that is not a number makes the objects around it unreadable. -/
theorem read_write_ne_ok :
    let objects : List (ScoredObject Float) := [⟨"A", .ofList [("x", 0.0 / 0.0)]⟩, ⟨"B", ∅⟩]
    let text := "\x7b\"name\":\"A\",\"scores\":\x7b\"x\":null\x7d\x7d\n" ++
      "\x7b\"name\":\"B\",\"scores\":\x7b\x7d\x7d\n"
    write ScoredObject.encode objects = .ok text ∧
      ∀ found, read ScoredObject.decode text.toUTF8.toList ≠ .ok found := by
  intro objects text
  have hwritten : write ScoredObject.encode objects = .ok text := by
    show Except.ok _ = _
    rw [Except.ok.injEq]
    decide +kernel
  refine ⟨hwritten, fun found h => ?_⟩
  obtain ⟨text', texts, hwrite, htexts, hlines⟩ :=
    exists_write ScoredObject.jsonCodec_lawful objects
  obtain rfl : text = text' := Except.ok.inj (hwritten.symm.trans hwrite)
  -- the first object would have to be readable
  have hall := (read_eq_ok_iff_of_lines ScoredObject.jsonCodec_lawful htexts hlines).1 h
  obtain ⟨object, _, hobject, -, -⟩ := List.forall₂_cons_left_iff.1 hall
  have hscores : (OrderedMap.ofList [("x", (0.0 / 0.0 : Float))]).toList = [("x", 0.0 / 0.0)] := rfl
  have hreadable := Codec.exists_objectReadAs_iff.1 ⟨object, hobject⟩
  rw [hscores, List.forall_mem_singleton,
    ScoredObject.jsonCodec_writeNumber_of_not_isFinite (by decide +kernel)] at hreadable
  obtain ⟨y, hy⟩ := hreadable
  exact ScoredObject.jsonCodec_readNumber_null y hy

end Dataset

end GradedQuery
