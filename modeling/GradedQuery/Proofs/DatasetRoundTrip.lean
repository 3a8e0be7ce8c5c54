import GradedQuery.Proofs.DatasetLines
import GradedQuery.Proofs.WrittenObject
import Mathlib.Tactic.SplitIfs

/-!
# Datasets, written and read back

A dataset is written as one line for each object and read line by line.  Two things hold for every
lawful codec.

* The text of an object is a single line: it has no line feed in it, and a byte of value 10 comes
  from a line feed only (`ten_not_mem_utf8EncodeChar`).  **A file of such texts has them as its
  lines** (`lines_join`).
* A line is trimmed before it is read.  The text of an object keeps all of its characters, as it
  starts and ends with a brace (`Codec.Lawful.trim_eq_self`).

So **what has been written is read object by object** (`read_eq_ok_iff_of_lines`), and it is read
back if the numbers in it are (`read_write`).
-/

namespace GradedQuery

open Text

variable {c : Char}

/-! ## Texts and their bytes -/

/-- No byte of another character is that of a line feed. -/
lemma ten_not_mem_utf8EncodeChar (hc : c ≠ '\n') : 10 ∉ String.utf8EncodeChar c := by
  have hcode : c.val.toNat ≠ 10 := fun h => hc (Char.toNat_inj.1 h)
  have hne : ∀ n, n ≠ 10 → n < 256 → (10 : UInt8) ≠ UInt8.ofNat n := by
    intro n hten hn h
    have hvalue := congrArg UInt8.toNat h
    rw [UInt8.toNat_ofNat_of_lt' hn] at hvalue
    exact hten hvalue.symm
  -- one case for each number of bytes
  rw [String.utf8EncodeChar]
  split_ifs
  all_goals simp only [List.mem_cons, List.not_mem_nil, or_false, not_or]
  · exact hne _ hcode (by omega)
  · exact ⟨hne _ (by omega) (by omega), hne _ (by omega) (by omega)⟩
  · exact ⟨hne _ (by omega) (by omega), hne _ (by omega) (by omega),
      hne _ (by omega) (by omega)⟩
  · exact ⟨hne _ (by omega) (by omega), hne _ (by omega) (by omega),
      hne _ (by omega) (by omega), hne _ (by omega) (by omega)⟩

lemma ten_not_mem_toUTF8 {s : String} (hs : '\n' ∉ s.toList) : 10 ∉ s.toUTF8.toList := by
  rw [toList_toUTF8, List.mem_flatMap]
  rintro ⟨c, hc, hten⟩
  exact ten_not_mem_utf8EncodeChar (fun hfeed => hs (hfeed ▸ hc)) hten

/-- Trimming keeps a text between two marks. -/
lemma Text.trim_eq_self {s : String} {first last : Char} {cs : List Char}
    (hs : s.toList = first :: (cs ++ [last])) (hfirst : isBlank first = false)
    (hlast : isBlank last = false) : trim s = s := by
  have hlist : trimList s.toList = s.toList := by
    rw [hs, trimList, List.dropWhile_cons_of_neg (by simp [hfirst]), ← List.cons_append,
      List.reverse_concat, List.dropWhile_cons_of_neg (by simp [hlast]), List.reverse_cons,
      List.reverse_reverse]
  rw [trim, hlist, String.ofList_toList]

namespace Dataset

/-! ## Lines -/

/-- **A file of texts without line feeds has them as its lines.** -/
lemma lines_join {texts : List String} (h : ∀ s ∈ texts, '\n' ∉ s.toList) :
    lines (String.join (texts.map (· ++ "\n"))).toUTF8.toList =
      texts.map (·.toUTF8.toList) := by
  induction texts with
  | nil => rw [toList_toUTF8]; rfl
  | cons s texts ih =>
      obtain ⟨hs, hrest⟩ := List.forall_mem_cons.1 h
      have hbytes : (String.join ((s :: texts).map (· ++ "\n"))).toUTF8.toList =
          s.toUTF8.toList ++ 10 :: (String.join (texts.map (· ++ "\n"))).toUTF8.toList := by
        have hfeed : "\n".toList.flatMap String.utf8EncodeChar = [10] := by decide
        rw [List.map_cons, String.join_cons]
        simp only [toList_toUTF8, String.toList_append, List.flatMap_append, hfeed,
          List.append_assoc, List.singleton_append]
      rw [hbytes, lines_cons_line (ten_not_mem_toUTF8 hs), ih hrest, List.map_cons]

variable {ε : Type} {codec : Codec ε} {object object' : ScoredObject Float} {text : String}
  {objects found : List (ScoredObject Float)} {texts : List String}

/-! ## Objects -/

namespace Codec.Lawful

/-- The text of an object is kept when it is trimmed. -/
lemma trim_eq_self (hc : codec.Lawful) (h : codec.encode object = .ok text) : trim text = text := by
  obtain ⟨body, hbody⟩ := hc.braced h
  exact Text.trim_eq_self hbody (by decide) (by decide)

lemma not_isBlank (hc : codec.Lawful) (h : codec.encode object = .ok text) :
    ¬ IsBlank text.toUTF8.toList := by
  obtain ⟨body, hbody⟩ := hc.braced h
  rw [isBlank_iff rfl, hc.trim_eq_self h, String.isEmpty_iff]
  rintro rfl
  cases hbody

/-- **The line of an object holds what its scores are read as.** -/
lemma hasObject_iff (hc : codec.Lawful) (h : codec.encode object = .ok text) :
    HasObject codec.decode text.toUTF8.toList object' ↔ codec.ObjectReadAs object object' := by
  rw [← hc.scoreByScore h]
  constructor
  · rintro ⟨-, s, hs, hdecode⟩
    have hsame := (lineText?_eq_some_iff.2 hs).symm.trans (lineText?_toUTF8 text)
    cases hsame
    rwa [hc.trim_eq_self h] at hdecode
  · intro hdecode
    refine ⟨hc.not_isBlank h, text, rfl, ?_⟩
    rwa [hc.trim_eq_self h]

lemma haveObjects_iff (hc : codec.Lawful)
    (h : List.Forall₂ (codec.encode · = .ok ·) objects texts) :
    HaveObjects codec.decode (texts.map (·.toUTF8.toList)) found ↔
      List.Forall₂ codec.ObjectReadAs objects found := by
  induction h generalizing found with
  | nil =>
      rw [List.forall₂_nil_left_iff]
      constructor
      · rintro ⟨⟩
        rfl
      · rintro rfl
        exact .nil
  | cons htext _ ih =>
      constructor
      · intro h
        cases h with
        | blank hblank _ => exact absurd hblank (hc.not_isBlank htext)
        | object hobject hrest => exact .cons ((hc.hasObject_iff htext).1 hobject) (ih.1 hrest)
      · intro h
        cases h with
        | cons hobject hrest => exact .object ((hc.hasObject_iff htext).2 hobject) (ih.2 hrest)

end Codec.Lawful

/-! ## Files -/

/-- Objects are written as their texts, each with a line feed behind it. -/
lemma exists_writeFrom (hc : codec.Lawful) (count : Nat) (objects : List (ScoredObject Float)) :
    ∃ texts, List.Forall₂ (codec.encode · = .ok ·) objects texts ∧
      writeFrom codec.encode count objects = .ok (String.join (texts.map (· ++ "\n"))) := by
  induction objects generalizing count with
  | nil => exact ⟨[], .nil, rfl⟩
  | cons object objects ih =>
      obtain ⟨text, htext⟩ := hc.encodes object
      obtain ⟨texts, htexts, hwrite⟩ := ih (count + 1)
      refine ⟨text :: texts, .cons htext htexts, ?_⟩
      rw [writeFrom, htext, hwrite, List.map_cons, String.join_cons]
      rfl

/-- **A written file has one line for each object.** -/
lemma exists_write (hc : codec.Lawful) (objects : List (ScoredObject Float)) :
    ∃ text texts, write codec.encode objects = .ok text ∧
      List.Forall₂ (codec.encode · = .ok ·) objects texts ∧
      lines text.toUTF8.toList = texts.map (·.toUTF8.toList) := by
  obtain ⟨texts, htexts, hwrite⟩ := exists_writeFrom hc 0 objects
  refine ⟨_, texts, hwrite, htexts, lines_join ?_⟩
  clear hwrite
  induction htexts with
  | nil => exact List.forall_mem_nil _
  | cons htext _ ih => exact List.forall_mem_cons.2 ⟨hc.oneLine htext, ih⟩

/-- **What has been written is read object by object**, and each one score by score. -/
lemma read_eq_ok_iff_of_lines (hc : codec.Lawful)
    (htexts : List.Forall₂ (codec.encode · = .ok ·) objects texts)
    (hlines : lines text.toUTF8.toList = texts.map (·.toUTF8.toList)) :
    read codec.decode text.toUTF8.toList = .ok found ↔
      List.Forall₂ codec.ObjectReadAs objects found := by
  rw [read, items, hlines, mapM_itemsFrom_eq_ok_iff, hc.haveObjects_iff htexts]

/-- **What has been written is read back**: all objects, in their order, under any names, if their
scores are finite and finite scores are read back from the texts in which they are written. -/
theorem read_write (codec : Codec ε) (hc : codec.Lawful) (objects : List (ScoredObject Float))
    (hfinite : ∀ object ∈ objects, ∀ e ∈ object.scores.toList, e.2.isFinite = true)
    (hnumbers : ∀ object ∈ objects, ∀ e ∈ object.scores.toList, e.2.isFinite = true →
      codec.readNumber (codec.writeNumber e.2) = .ok e.2) :
    ∃ text, write codec.encode objects = .ok text ∧
      read codec.decode text.toUTF8.toList = .ok objects := by
  obtain ⟨text, texts, hwrite, htexts, hlines⟩ := exists_write hc objects
  refine ⟨text, hwrite, (read_eq_ok_iff_of_lines hc htexts hlines).2 ?_⟩
  refine List.forall₂_same.2 fun object ho => ⟨rfl, List.forall₂_same.2 fun e he => ⟨rfl, ?_⟩⟩
  exact hnumbers object ho e he (hfinite object ho e he)

/-- Names may hold quotation marks, line feeds and blanks at their ends, they may be empty, and they
may come again. -/
theorem read_write_marks :
    let marked : ScoredObject Float := ⟨" \"\\\n\x01\u2028", .ofList [("\n", 0.6), ("", 0.6)]⟩
    let objects := [marked, ⟨"", ∅⟩, marked]
    marked.scores.toList = [("", 0.6), ("\n", 0.6)] ∧ (0.6 : Float).isFinite = true ∧
      ScoredObject.jsonCodec.readNumber (ScoredObject.jsonCodec.writeNumber 0.6) = .ok 0.6 ∧
      ∃ text, write ScoredObject.encode objects = .ok text ∧
        read ScoredObject.decode text.toUTF8.toList = .ok objects := by
  intro marked objects
  have hmarked : marked.scores.toList = [("", 0.6), ("\n", 0.6)] := by decide +kernel
  have hfinite : (0.6 : Float).isFinite = true := by decide
  have hscores : ∀ object ∈ objects, ∀ e ∈ object.scores.toList, e.2 = 0.6 := by decide +kernel
  refine ⟨hmarked, hfinite, ScoredObject.jsonCodec_readNumber_six_tenths,
    read_write ScoredObject.jsonCodec ScoredObject.jsonCodec_lawful objects
      (fun object ho e he => ?_) fun object ho e he _ => ?_⟩
  · rw [hscores object ho e he]
    exact hfinite
  · rw [hscores object ho e he]
    exact ScoredObject.jsonCodec_readNumber_six_tenths

end Dataset

end GradedQuery
