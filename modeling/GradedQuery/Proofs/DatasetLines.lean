import GradedQuery.Dataset.Object
import GradedQuery.Proofs.Outcome
import Mathlib.Data.List.Forall2
import Mathlib.Data.List.TakeWhile

/-!
# Datasets, line by line

What is read of a file depends on its lines one by one.  A line is blank, it holds an object, or
reading it fails (`exists_answers`), and each of these is said of its bytes alone: `IsBlank`,
`HasObject`, `Fails`.  All of this holds for every decoder of lines.

* **A file has exactly one list of lines** (`hasLines_iff`), whether or not the last one is ended.
* **Reading all objects yields each of them or the first failure**, which carries the number of its
  line in the file (`read_eq_iff`).  The lines in front of a first failure are all texts, so that
  counting texts counts lines there.
* Going on after failures, there is **one item for each line that is not blank**
  (`items_eq_placed`), but the numbers go on counting texts.  They are those of the lines as long as
  no line fails to be a text, and too small from there on (`items_number_ne_place`).
-/

namespace GradedQuery

/-! ## Texts and their bytes -/

lemma toList_loop (bytes : ByteArray) (i : Nat) (read : List UInt8) :
    ByteArray.toList.loop bytes i read = read.reverse ++ bytes.data.toList.drop i := by
  fun_induction ByteArray.toList.loop bytes i read with
  | case1 i read hi ih =>
      have hlength : i < bytes.data.toList.length := hi
      have hbyte : bytes.get! i = bytes.data.toList[i] := getElem!_pos bytes.data i hi
      rw [ih, List.drop_eq_getElem_cons hlength, hbyte, List.reverse_cons, List.append_assoc]
      rfl
  | case2 i read hi =>
      have hlength : bytes.data.toList.length ≤ i := Nat.not_lt.1 hi
      rw [List.drop_eq_nil_of_le hlength, List.append_nil]

lemma toList_toUTF8 (s : String) : s.toUTF8.toList = s.toList.flatMap String.utf8EncodeChar := by
  rw [ByteArray.toList, toList_loop, List.drop_zero, String.toUTF8_eq_toByteArray,
    ← String.utf8Encode_toList]
  exact List.toList_data_toByteArray

/-- Trimming leaves nothing exactly of a blank text. -/
lemma Text.isEmpty_trim_iff {s : String} :
    (trim s).isEmpty = true ↔ ∀ c ∈ s.toList, isBlank c = true := by
  rw [trim, String.isEmpty_iff, String.ofList_eq_empty_iff, trimList, List.reverse_eq_nil_iff,
    List.dropWhile_eq_nil_iff]
  constructor
  · intro h c hc
    rw [← List.takeWhile_append_dropWhile (p := isBlank) (l := s.toList)] at hc
    rcases List.mem_append.1 hc with hc | hc
    · exact List.mem_takeWhile_imp hc
    · exact h c (List.mem_reverse.2 hc)
  · intro h c hc
    exact h c ((List.dropWhile_sublist _).subset (List.mem_reverse.1 hc))

namespace Dataset

variable {ε : Type} {decode : String → Except ε (ScoredObject Float)} {bytes line : List UInt8}
  {ls : List (List UInt8)} {s : String} {count number : Nat} {object : ScoredObject Float}
  {objects : List (ScoredObject Float)} {error : DatasetError ε}

/-! ## Lines -/

/-- Whether a file consists of these lines.  Each ends at a line feed, the last one possibly at the
end of the file; there is no line behind the last line feed. -/
inductive HasLines : List UInt8 → List (List UInt8) → Prop
  | nil : HasLines [] []
  | last {line : List UInt8} (hne : line ≠ []) (hline : 10 ∉ line) : HasLines line [line]
  | cons {line rest : List UInt8} {ls : List (List UInt8)} (hline : 10 ∉ line)
      (h : HasLines rest ls) : HasLines (line ++ 10 :: rest) (line :: ls)

lemma HasLines.cons_byte (h : HasLines bytes ls) (b : UInt8) :
    HasLines (b :: bytes) (addByte b ls) := by
  by_cases hb : b = 10
  · rw [addByte.eq_def, if_pos hb, hb]
    show HasLines ([] ++ 10 :: bytes) ([] :: ls)
    exact .cons List.not_mem_nil h
  · have hmem {line : List UInt8} (hline : 10 ∉ line) : 10 ∉ b :: line :=
      List.not_mem_cons_of_ne_of_not_mem (Ne.symm hb) hline
    rw [addByte.eq_def, if_neg hb]
    cases h with
    | nil => exact .last (List.cons_ne_nil b []) (hmem List.not_mem_nil)
    | last hne hline => exact .last (List.cons_ne_nil b _) (hmem hline)
    | cons hline h => exact .cons (hmem hline) h

lemma lines_cons_line (hline : 10 ∉ line) (rest : List UInt8) :
    lines (line ++ 10 :: rest) = line :: lines rest := by
  induction line with
  | nil => rfl
  | cons b line ih =>
      obtain ⟨hb, hline⟩ := List.ne_and_not_mem_of_not_mem_cons hline
      show addByte b (lines (line ++ 10 :: rest)) = _
      rw [ih hline, addByte, if_neg hb.symm]

lemma lines_of_not_mem (hne : line ≠ []) (hline : 10 ∉ line) : lines line = [line] := by
  induction line with
  | nil => exact absurd rfl hne
  | cons b line ih =>
      obtain ⟨hb, hline⟩ := List.ne_and_not_mem_of_not_mem_cons hline
      show addByte b (lines line) = _
      cases line with
      | nil => rw [lines, List.foldr_nil, addByte.eq_def, if_neg hb.symm]
      | cons c line => rw [ih (List.cons_ne_nil c line) hline, addByte.eq_def, if_neg hb.symm]

/-- **A file has exactly one list of lines.** -/
lemma hasLines_iff : HasLines bytes ls ↔ lines bytes = ls := by
  constructor
  · intro h
    induction h with
    | nil => rfl
    | last hne hline => exact lines_of_not_mem hne hline
    | cons hline _ ih => rw [lines_cons_line hline, ih]
  · rintro rfl
    induction bytes with
    | nil => exact .nil
    | cons b bytes ih => exact ih.cons_byte b

/-! ## What a line is -/

/-- Whether a line is a text in UTF-8. -/
def IsText (line : List UInt8) : Prop := ∃ s : String, s.toUTF8.toList = line

/-- Whether a line is a text of blank characters. -/
def IsBlank (line : List UInt8) : Prop :=
  ∃ s : String, s.toUTF8.toList = line ∧ ∀ c ∈ s.toList, Text.isBlank c = true

/-- Whether the trimmed text of a line is an object. -/
def HasObject (decode : String → Except ε (ScoredObject Float)) (line : List UInt8)
    (object : ScoredObject Float) : Prop :=
  ¬ IsBlank line ∧ ∃ s : String, s.toUTF8.toList = line ∧ decode (Text.trim s) = .ok object

/-- Whether reading a line fails with an error, if it is counted as the line `number`. -/
inductive Fails (decode : String → Except ε (ScoredObject Float)) (number : Nat)
    (line : List UInt8) : DatasetError ε → Prop
  | notText (h : ¬ IsText line) : Fails decode number line (.file .invalidUtf8)
  | undecodable {s : String} {source : ε} (hs : s.toUTF8.toList = line) (hblank : ¬ IsBlank line)
      (h : decode (Text.trim s) = .error source) : Fails decode number line (.line number source)

/-- A text is read back from its bytes. -/
lemma lineText?_toUTF8 (s : String) : lineText? s.toUTF8.toList = some s := by
  have hbytes : (⟨s.toUTF8.toList.toArray⟩ : ByteArray) = s.toByteArray := by
    rw [ByteArray.toList, toList_loop, List.drop_zero, String.toUTF8_eq_toByteArray]
    rfl
  rw [lineText?, hbytes, String.fromUTF8?, dif_pos s.isValidUTF8]
  rfl

lemma lineText?_eq_some_iff : lineText? line = some s ↔ s.toUTF8.toList = line := by
  constructor
  · intro h
    rw [lineText?, String.fromUTF8?] at h
    split at h
    · next hvalid =>
        cases h
        show ByteArray.toList ⟨line.toArray⟩ = line
        rw [ByteArray.toList, toList_loop, List.drop_zero]
        rfl
    · cases h
  · rintro rfl
    exact lineText?_toUTF8 s

lemma lineText?_eq_none_iff : lineText? line = none ↔ ¬ IsText line := by
  simp only [Option.eq_none_iff_forall_ne_some, ne_eq, lineText?_eq_some_iff, IsText, not_exists]

lemma isBlank_iff (hs : s.toUTF8.toList = line) :
    IsBlank line ↔ (Text.trim s).isEmpty = true := by
  rw [Text.isEmpty_trim_iff]
  constructor
  · rintro ⟨s', hs', hblank⟩
    have hsame := (lineText?_eq_some_iff.2 hs).symm.trans (lineText?_eq_some_iff.2 hs')
    cases hsame
    exact hblank
  · exact fun hblank => ⟨s, hs, hblank⟩

lemma IsBlank.isText (h : IsBlank line) : IsText line := h.imp fun _ => And.left

lemma HasObject.isText (h : HasObject decode line object) : IsText line := h.2.imp fun _ => And.left

lemma Fails.not_isBlank (h : Fails decode number line error) : ¬ IsBlank line := by
  cases h with
  | notText h => exact fun ⟨s, hs, _⟩ => h ⟨s, hs⟩
  | undecodable _ hblank _ => exact hblank

/-! ## Items -/

/-- Whether an item is what comes of a line that is counted as the line `number`. -/
inductive Answers (decode : String → Except ε (ScoredObject Float)) (number : Nat)
    (line : List UInt8) : Except (DatasetError ε) (ScoredObject Float) → Prop
  | object {object : ScoredObject Float} (h : HasObject decode line object) :
      Answers decode number line (.ok object)
  | failure {error : DatasetError ε} (h : Fails decode number line error) :
      Answers decode number line (.error error)

/-- **Every line is blank or has an answer.** -/
lemma exists_answers (decode : String → Except ε (ScoredObject Float)) (number : Nat)
    (line : List UInt8) : IsBlank line ∨ ∃ item, Answers decode number line item := by
  by_cases htext : IsText line
  · obtain ⟨s, hs⟩ := htext
    by_cases hblank : IsBlank line
    · exact .inl hblank
    · cases hdecode : decode (Text.trim s) with
      | ok object => exact .inr ⟨_, .object ⟨hblank, s, hs, hdecode⟩⟩
      | error source => exact .inr ⟨_, .failure (.undecodable hs hblank hdecode)⟩
  · exact .inr ⟨_, .failure (.notText htext)⟩

lemma Answers.not_isBlank {item : Except (DatasetError ε) (ScoredObject Float)}
    (h : Answers decode number line item) : ¬ IsBlank line := by
  cases h with
  | object h => exact h.1
  | failure h => exact h.not_isBlank

/-- The number of lines that are texts. -/
def textCount (ls : List (List UInt8)) : Nat := ls.countP fun line => (lineText? line).isSome

lemma textCount_cons (line : List UInt8) (ls : List (List UInt8)) :
    textCount (line :: ls) = textCount [line] + textCount ls := by
  show ([line] ++ ls).countP _ = _
  exact List.countP_append

lemma textCount_of_isText (h : IsText line) : textCount [line] = 1 := by
  obtain ⟨s, hs⟩ := h
  simp [textCount, lineText?_eq_some_iff.2 hs]

lemma itemsFrom_of_isBlank (decode : String → Except ε (ScoredObject Float)) (h : IsBlank line)
    (count : Nat) (rest : List (List UInt8)) :
    itemsFrom decode count (line :: rest) =
      itemsFrom decode (count + textCount [line]) rest := by
  rw [textCount_of_isText h.isText]
  obtain ⟨s, hs⟩ := h.isText
  simp only [itemsFrom, lineText?_eq_some_iff.2 hs, (isBlank_iff hs).1 h, if_true]

lemma itemsFrom_of_isText (decode : String → Except ε (ScoredObject Float))
    (hs : s.toUTF8.toList = line) (hblank : ¬ IsBlank line) (count : Nat)
    (rest : List (List UInt8)) :
    itemsFrom decode count (line :: rest) =
      (decode (Text.trim s)).mapError (.line (count + 1)) :: itemsFrom decode (count + 1) rest := by
  rw [isBlank_iff hs] at hblank
  simp only [itemsFrom, lineText?_eq_some_iff.2 hs, hblank, Bool.false_eq_true, if_false]

/-- **A line that is not blank adds one item**, numbered behind the texts in front of it. -/
lemma itemsFrom_of_answers {item : Except (DatasetError ε) (ScoredObject Float)}
    (h : Answers decode (count + 1) line item) (rest : List (List UInt8)) :
    itemsFrom decode count (line :: rest) =
      item :: itemsFrom decode (count + textCount [line]) rest := by
  cases h with
  | object h =>
      rw [textCount_of_isText h.isText]
      obtain ⟨hblank, s, hs, hdecode⟩ := h
      rw [itemsFrom_of_isText decode hs hblank, hdecode]
      rfl
  | failure h =>
      cases h with
      | notText h =>
          have hnone := lineText?_eq_none_iff.2 h
          have hcount : textCount [line] = 0 := by simp [textCount, hnone]
          simp only [itemsFrom, hnone, hcount, Nat.add_zero]
      | undecodable hs hblank hdecode =>
          rw [itemsFrom_of_isText decode hs hblank, hdecode, textCount_of_isText ⟨_, hs⟩]
          rfl

/-- **There is one item for each line that is not blank**, in the order of the lines.  The induction
is on the lines, where `count` texts come before. -/
lemma exists_places (decode : String → Except ε (ScoredObject Float)) (count : Nat)
    (ls : List (List UInt8)) :
    ∃ places : List Nat, places.Pairwise (· < ·) ∧
      (∀ k, k ∈ places ↔ ∃ line, ls[k]? = some line ∧ ¬ IsBlank line) ∧
      List.Forall₂ (fun k item => ∃ line, ls[k]? = some line ∧
        Answers decode (count + textCount (ls.take k) + 1) line item)
        places (itemsFrom decode count ls) := by
  induction ls generalizing count with
  | nil => exact ⟨[], .nil, by simp, .nil⟩
  | cons line rest ih =>
      obtain ⟨places, hsorted, hmem, hitems⟩ := ih (count + textCount [line])
      -- the places behind the first line
      have hsorted' : (places.map (· + 1)).Pairwise (· < ·) :=
        List.pairwise_map.2 (hsorted.imp Nat.succ_lt_succ)
      have hmem' (k : Nat) : k + 1 ∈ places.map (· + 1) ↔
          ∃ l, (line :: rest)[k + 1]? = some l ∧ ¬ IsBlank l := by
        rw [List.mem_map_of_injective Nat.succ_injective, hmem]
        rfl
      have hitems' : List.Forall₂ (fun k item => ∃ l, (line :: rest)[k]? = some l ∧
          Answers decode (count + textCount ((line :: rest).take k) + 1) l item)
          (places.map (· + 1)) (itemsFrom decode (count + textCount [line]) rest) := by
        rw [List.forall₂_map_left_iff]
        refine hitems.imp fun k item ⟨l, hl, hanswer⟩ => ⟨l, hl, ?_⟩
        rw [List.take_succ_cons, textCount_cons, ← Nat.add_assoc]
        exact hanswer
      have hzero : 0 ∉ places.map (· + 1) := by simp
      rcases exists_answers decode (count + 1) line with hblank | ⟨item, hanswer⟩
      · refine ⟨_, hsorted', fun k => ?_, ?_⟩
        · cases k with
          | zero => simpa [hzero] using hblank
          | succ k => exact hmem' k
        · rwa [itemsFrom_of_isBlank decode hblank]
      · refine ⟨0 :: places.map (· + 1), List.pairwise_cons.2 ⟨by simp, hsorted'⟩, fun k => ?_, ?_⟩
        · cases k with
          | zero => simpa using hanswer.not_isBlank
          | succ k => rw [← hmem' k, List.mem_cons, or_iff_right (Nat.succ_ne_zero k)]
        · rw [itemsFrom_of_answers hanswer]
          exact .cons ⟨line, rfl, hanswer⟩ hitems'

lemma textCount_eq_length_iff : textCount ls = ls.length ↔ ∀ line ∈ ls, IsText line := by
  have hsome (line : List UInt8) : (lineText? line).isSome = true ↔ IsText line := by
    rw [Option.isSome_iff_ne_none, ne_eq, lineText?_eq_none_iff, not_not]
  simp only [textCount, List.countP_eq_length, hsome]

/-- **There is one item for each line that is not blank**, in their order.  Each failure to decode
carries a number that is one more than the number of texts among the lines before.  That is the
number of its line in the file exactly if all lines before are texts. -/
theorem items_eq_placed (decode : String → Except ε (ScoredObject Float)) (bytes : List UInt8) :
    ∃ (ls : List (List UInt8)) (places : List Nat), HasLines bytes ls ∧
      places.Pairwise (· < ·) ∧
      (∀ k, k ∈ places ↔ ∃ line, ls[k]? = some line ∧ ¬ IsBlank line) ∧
      List.Forall₂ (fun k item => ∃ line, ls[k]? = some line ∧
        Answers decode (textCount (ls.take k) + 1) line item ∧
        (textCount (ls.take k) + 1 = k + 1 ↔ ∀ before ∈ ls.take k, IsText before))
        places (items decode bytes) := by
  obtain ⟨places, hsorted, hmem, hitems⟩ := exists_places decode 0 (lines bytes)
  refine ⟨lines bytes, places, hasLines_iff.2 rfl, hsorted, hmem, hitems.imp ?_⟩
  rintro k item ⟨line, hline, hanswer⟩
  obtain ⟨hk, -⟩ := List.getElem?_eq_some_iff.1 hline
  rw [Nat.zero_add] at hanswer
  refine ⟨line, hline, hanswer, ?_⟩
  rw [← textCount_eq_length_iff, List.length_take_of_le hk.le, Nat.succ_inj]

/-- Behind a line that is no text the numbers are too small: the second line of this file is
reported as the first one. -/
theorem items_number_ne_place :
    ∃ fault, HasLines [0xFF, 10, 120] [[0xFF], [120]] ∧
      items ScoredObject.decode [0xFF, 10, 120] =
        [.error (.file .invalidUtf8), .error (.line 1 fault)] ∧
      ¬ Answers ScoredObject.decode 2 [120] (.error (.line 1 fault)) := by
  refine ⟨⟨.expectedValue, 1⟩, hasLines_iff.2 rfl, rfl, fun h => ?_⟩
  cases h with
  | failure h => cases h

/-! ## All objects -/

/-- Whether each of some lines is blank or holds an object, and these are the objects in the order
of their lines. -/
inductive HaveObjects (decode : String → Except ε (ScoredObject Float)) :
    List (List UInt8) → List (ScoredObject Float) → Prop
  | nil : HaveObjects decode [] []
  | blank {line : List UInt8} {ls : List (List UInt8)} {objects : List (ScoredObject Float)}
      (h : IsBlank line) (hrest : HaveObjects decode ls objects) :
      HaveObjects decode (line :: ls) objects
  | object {line : List UInt8} {ls : List (List UInt8)} {object : ScoredObject Float}
      {objects : List (ScoredObject Float)} (h : HasObject decode line object)
      (hrest : HaveObjects decode ls objects) : HaveObjects decode (line :: ls) (object :: objects)

/-- An object is put in front of what is read behind it. -/
lemma mapM_ok_cons (object : ScoredObject Float)
    (items : List (Except (DatasetError ε) (ScoredObject Float))) :
    (.ok object :: items).mapM id = (items.mapM id).map (object :: ·) := by
  rw [List.mapM_cons]
  cases items.mapM id <;> rfl

lemma mapM_error_cons (error : DatasetError ε)
    (items : List (Except (DatasetError ε) (ScoredObject Float))) :
    (.error error :: items).mapM id = .error error := by
  rw [List.mapM_cons]
  rfl

lemma map_cons_eq_ok_iff {r : Except (DatasetError ε) (List (ScoredObject Float))} :
    r.map (object :: ·) = .ok objects ↔ ∃ rest, r = .ok rest ∧ objects = object :: rest := by
  cases r with
  | error e => simp [Except.map]
  | ok rest => simp [Except.map, eq_comm]

lemma map_cons_eq_error_iff {r : Except (DatasetError ε) (List (ScoredObject Float))} :
    r.map (object :: ·) = .error error ↔ r = .error error := by
  cases r <;> simp [Except.map]

/-- What is read of some lines, if `count` texts come before. -/
lemma mapM_itemsFrom_eq_ok_iff :
    (itemsFrom decode count ls).mapM id = .ok objects ↔ HaveObjects decode ls objects := by
  constructor
  · intro h
    induction ls generalizing count objects with
    | nil =>
        cases h
        exact .nil
    | cons line ls ih =>
        rcases exists_answers decode (count + 1) line with hblank | ⟨item, hanswer⟩
        · rw [itemsFrom_of_isBlank decode hblank] at h
          exact .blank hblank (ih h)
        · rw [itemsFrom_of_answers hanswer] at h
          cases hanswer with
          | object hobject =>
              rw [mapM_ok_cons, map_cons_eq_ok_iff] at h
              obtain ⟨rest, hrest, rfl⟩ := h
              exact .object hobject (ih hrest)
          | failure hfails =>
              rw [mapM_error_cons] at h
              cases h
  · intro h
    induction h generalizing count with
    | nil => rfl
    | blank hblank _ ih => rw [itemsFrom_of_isBlank decode hblank, ih]
    | object hobject _ ih =>
        rw [itemsFrom_of_answers (.object hobject), mapM_ok_cons, ih]
        rfl

lemma number_cons (count : Nat) (line : List UInt8) (before : List (List UInt8)) :
    count + (line :: before).length + 1 = count + 1 + before.length + 1 := by
  rw [List.length_cons]
  omega

/-- The first failure of some lines, if `count` texts come before.  All lines in front of it are
texts too. -/
lemma mapM_itemsFrom_eq_error_iff :
    (itemsFrom decode count ls).mapM id = .error error ↔
      ∃ before line after objects, ls = before ++ line :: after ∧
        HaveObjects decode before objects ∧
        Fails decode (count + before.length + 1) line error := by
  constructor
  · intro h
    induction ls generalizing count with
    | nil => cases h
    | cons line ls ih =>
        rcases exists_answers decode (count + 1) line with hblank | ⟨item, hanswer⟩
        · rw [itemsFrom_of_isBlank decode hblank, textCount_of_isText hblank.isText] at h
          obtain ⟨before, l, after, objects, rfl, hbefore, hfails⟩ := ih h
          refine ⟨line :: before, l, after, objects, rfl, .blank hblank hbefore, ?_⟩
          rwa [number_cons]
        · rw [itemsFrom_of_answers hanswer] at h
          cases hanswer with
          | object hobject =>
              rw [mapM_ok_cons, map_cons_eq_error_iff, textCount_of_isText hobject.isText] at h
              obtain ⟨before, l, after, objects, rfl, hbefore, hfails⟩ := ih h
              refine ⟨line :: before, l, after, _, rfl, .object hobject hbefore, ?_⟩
              rwa [number_cons]
          | failure hfails =>
              rw [mapM_error_cons] at h
              cases h
              exact ⟨[], line, ls, [], rfl, .nil, hfails⟩
  · rintro ⟨before, line, after, objects, rfl, hbefore, hfails⟩
    induction hbefore generalizing count with
    | nil =>
        rw [List.length_nil, Nat.add_zero] at hfails
        rw [List.nil_append, itemsFrom_of_answers (.failure hfails), mapM_error_cons]
    | @blank l before objects hblank _ ih =>
        rw [List.cons_append, itemsFrom_of_isBlank decode hblank, textCount_of_isText hblank.isText]
        rw [number_cons] at hfails
        exact ih hfails
    | @object l before object objects hobject _ ih =>
        rw [List.cons_append, itemsFrom_of_answers (.object hobject), mapM_ok_cons,
          map_cons_eq_error_iff, textCount_of_isText hobject.isText]
        rw [number_cons] at hfails
        exact ih hfails

/-- **All objects are read, or the first failure.**  If each line is blank or holds an object, these
objects are read in the order of their lines.  Otherwise there is a first line that fails, and its
failure is the result, with the number of the line in the file, whatever comes behind. -/
theorem read_eq_iff (decode : String → Except ε (ScoredObject Float)) (bytes : List UInt8) :
    (∀ objects, read decode bytes = .ok objects ↔
        ∃ ls, HasLines bytes ls ∧ HaveObjects decode ls objects) ∧
      ∀ error, read decode bytes = .error error ↔
        ∃ before line after objects, HasLines bytes (before ++ line :: after) ∧
          HaveObjects decode before objects ∧ Fails decode (before.length + 1) line error := by
  constructor
  · intro objects
    rw [read, items, mapM_itemsFrom_eq_ok_iff]
    simp only [hasLines_iff, exists_eq_left']
  · intro error
    rw [read, items, mapM_itemsFrom_eq_error_iff]
    simp only [hasLines_iff, Nat.zero_add]

end Dataset

end GradedQuery
