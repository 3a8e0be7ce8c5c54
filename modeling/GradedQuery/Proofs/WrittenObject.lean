import GradedQuery.Dataset.Object
import GradedQuery.Proofs.CompactDocument
import GradedQuery.Proofs.DatasetCodec

/-!
# Written objects

**The JSON form of objects is a lawful codec** (`ScoredObject.jsonCodec_lawful`).  Names of objects
and of atoms may be any texts, and there may be no scores.

What the form of an object is read as depends on its scores alone (`ScoredObject.reads_read`).  They
are put into a map one after the other, and as they are written in ascending order of their atoms,
no one is put in the stead of another: the map has one entry for each.
-/

namespace GradedQuery

open Json Reader

variable {β : Type} {b : β} {R : β → Prop} {cs : List Char} {next : Unit → Reader β}

/-- The colon behind a key is taken on its own, also if a number follows. -/
lemma Json.run_colon (cs : List Char) : colon.run (':' :: cs) = .ok ((), cs) := by
  rw [colon, run_bind_of_ok (run_nextMark? (by decide) _)]
  rfl

lemma Json.Reader.Takes.of_colon (h : (next ()).Takes cs b) :
    (colon >>= next).Takes (':' :: cs) b := by
  intro rest hrest
  rw [List.cons_append, run_bind_of_ok (run_colon _)]
  exact h rest hrest

lemma Json.Reader.Reads.of_colon (h : (next ()).Reads cs R) :
    (colon >>= next).Reads (':' :: cs) R := by
  intro rest hrest
  rw [List.cons_append, run_bind_of_ok (run_colon _)]
  exact h rest hrest

namespace ScoredObject

/-- The codec of objects in JSON. -/
def jsonCodec : Dataset.Codec Fault where
  encode := encode
  decode := decode
  writeNumber := writeNumber
  readNumber text := Json.decode float text.toList

variable {object : ScoredObject Float} {scores : Scores Float} {x : Float}

/-! ## Scores -/

/-- Reads the part of a score behind its atom. -/
def readScore (scores : Scores Float) (atom : String) : Reader (Scores Float) := do
  colon
  let x ← float
  return scores.insert atom x

lemma readScores_eq : readScores = Json.object "a map" readScore ∅ := rfl

lemma reads_readScore (scores : Scores Float) (atom : String) (x : Float) :
    (readScore scores atom).Reads (':' :: (Document.number x).compact.toList) fun scores' =>
      ∃ y, Json.decode float (writeNumber x).toList = .ok y ∧ scores' = scores.insert atom y :=
  .of_colon ((reads_float x).bind_pure _)

/-- The entries of the object in which scores are written. -/
def scoreEntries (l : List (String × Float)) : List (String × Document) :=
  l.map fun (atom, x) => (atom, .number x)

/-- Scores are put into the map that has been read so far. -/
lemma readsEntries_scores (l : List (String × Float)) (scores : Scores Float) :
    ReadsEntries readScore scores (scoreEntries l) fun scores' =>
      ∃ l', List.Forall₂ jsonCodec.ReadAs l l' ∧
        scores' = l'.foldl (fun scores e => scores.insert e.1 e.2) scores := by
  induction l generalizing scores with
  | nil => exact ReadsEntries.nil.congr (by simp)
  | cons e l ih =>
      refine (ReadsEntries.cons (reads_readScore scores e.1 e.2) fun s _ => ih s).congr
        fun scores' => ?_
      constructor
      · rintro ⟨_, ⟨y, hy, rfl⟩, l', hl, rfl⟩
        exact ⟨(e.1, y) :: l', .cons ⟨rfl, hy⟩ hl, rfl⟩
      · rintro ⟨_, hl, rfl⟩
        cases hl with
        | @cons _ e' _ l' he hl =>
            obtain ⟨hatom, hy⟩ := he
            exact ⟨_, ⟨e'.2, hy, rfl⟩, l', hl, by rw [List.foldl_cons, hatom]⟩

/-- **Scores are read one by one.** -/
lemma reads_readScores (scores : Scores Float) :
    readScores.Reads (Document.object (scoreEntries scores.toList)).compact.toList fun scores' =>
      List.Forall₂ jsonCodec.ReadAs scores.toList scores'.toList := by
  rw [readScores_eq]
  refine ((readsEntries_scores scores.toList ∅).reads_object "a map").congr fun scores' => ?_
  constructor
  · rintro ⟨l, hl, rfl⟩
    obtain ⟨found, rfl⟩ := Dataset.Codec.exists_toList_of_readAs hl
    rwa [← OrderedMap.ofList.eq_def, OrderedMap.ofList_toList]
  · intro h
    exact ⟨scores'.toList, h, (OrderedMap.ofList_toList scores').symm⟩

/-! ## Objects -/

/-- The name is read into a draft without one. -/
lemma takes_readEntry_name (name : String) (scores : Option (Scores Float)) :
    (readEntry ⟨none, scores⟩ "name").Takes (':' :: (Document.text name).compact.toList)
      ⟨some name, scores⟩ :=
  .of_colon (Takes.bind_nil (takes_text _ name) (takes_pure _))

/-- The scores are read into a draft without any. -/
lemma reads_readEntry_scores (name : Option String) (scores : Scores Float) :
    (readEntry ⟨name, none⟩ "scores").Reads
      (':' :: (Document.object (scoreEntries scores.toList)).compact.toList) fun draft =>
        ∃ scores', List.Forall₂ jsonCodec.ReadAs scores.toList scores'.toList ∧
          draft = ⟨name, some scores'⟩ :=
  .of_colon ((reads_readScores scores).bind_pure _)

/-- The draft that is made of the entries of an object. -/
lemma readsEntries_readEntry (object : ScoredObject Float) :
    ReadsEntries readEntry ⟨none, none⟩
      [("name", .text object.name), ("scores", .object (scoreEntries object.scores.toList))]
      fun draft => ∃ scores', List.Forall₂ jsonCodec.ReadAs object.scores.toList scores'.toList ∧
        draft = ⟨some object.name, some scores'⟩ := by
  have hname := (takes_readEntry_name object.name none).reads
  refine (ReadsEntries.cons hname (Q := fun _ draft => ∃ scores', List.Forall₂ jsonCodec.ReadAs
    object.scores.toList scores'.toList ∧ draft = ⟨some object.name, some scores'⟩) ?_).congr ?_
  · rintro _ rfl
    have hscores := reads_readEntry_scores (some object.name) object.scores
    refine (ReadsEntries.cons hscores fun _ _ => .nil).congr fun draft => ?_
    simp
  · simp

/-- Every draft of that kind is an object. -/
lemma reads_readFields (object : ScoredObject Float) :
    readFields.Reads (objectBody [("name", .text object.name),
      ("scores", .object (scoreEntries object.scores.toList))])
      (jsonCodec.ObjectReadAs object) := by
  refine ((readsEntries_readEntry object).reads_entries.bind_nil
    (S := fun draft found => draft.name = some found.name ∧ found.scores = draft.scores.getD ∅)
    ?_).congr fun found => ?_
  · rintro ⟨_ | name, scores⟩ mid ⟨name', scores'⟩ last
    · show Except.error _ = _ ↔ _
      simp
    · show Except.ok (_, mid) = _ ↔ _
      constructor
      · rintro ⟨⟩
        exact ⟨rfl, rfl, rfl⟩
      · rintro ⟨rfl, ⟨⟩, hscores⟩
        rw [show scores' = scores.getD ∅ from hscores]
  · obtain ⟨name, scores⟩ := found
    constructor
    · rintro ⟨_, ⟨scores, hscores, rfl⟩, ⟨⟩, rfl⟩
      exact ⟨rfl, hscores⟩
    · rintro ⟨rfl, hscores⟩
      exact ⟨_, ⟨scores, hscores, rfl⟩, rfl, rfl⟩

/-- **The form of an object is read as what its scores are read as.** -/
lemma reads_read (object : ScoredObject Float) :
    read.Reads object.toDocument.compact.toList (jsonCodec.ObjectReadAs object) := by
  rw [toDocument, toList_compact_object]
  exact .of_nextMark? (by decide) (.of_drop (reads_readFields object))

lemma jsonCodec_decode (line : String) :
    jsonCodec.decode line = Json.decode read line.toList := rfl

/-- **The JSON form of objects is a lawful codec.** -/
theorem jsonCodec_lawful : jsonCodec.Lawful where
  encodes object := ⟨object.toDocument.compact, rfl⟩
  oneLine := by
    intro object text h
    obtain rfl := Except.ok.inj h
    exact fun hfeed => absurd (object.toDocument.over_compact '\n' hfeed) (by decide)
  braced := by
    intro object text h
    obtain rfl := Except.ok.inj h
    exact ⟨_, toList_compact_object _⟩
  scoreByScore := by
    intro object text h object'
    obtain rfl := Except.ok.inj h
    rw [jsonCodec_decode]
    exact (reads_read object).decode_eq_ok_iff

/-! ## Numbers -/

lemma jsonCodec_writeNumber_of_not_isFinite {x : Float} (h : ¬ x.isFinite = true) :
    jsonCodec.writeNumber x = "null" := writeNumber_of_not_isFinite h

lemma jsonCodec_readNumber_null (y : Float) : jsonCodec.readNumber "null" ≠ .ok y := by
  rintro ⟨⟩

lemma jsonCodec_readNumber_six_tenths :
    jsonCodec.readNumber (jsonCodec.writeNumber 0.6) = .ok 0.6 := decode_writeNumber_six_tenths

end ScoredObject

end GradedQuery
