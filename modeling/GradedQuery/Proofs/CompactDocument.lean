import GradedQuery.Proofs.NumberText
import GradedQuery.Proofs.WrittenText

/-!
# Compact documents

The compact form of a value is a single line: **it contains no control character**
(`Document.over_compact`), whatever texts, keys and numbers it is made of.

Its objects are read entry by entry.  `ReadsEntries step s entries P` says that the steps of a
reader lead from `s` exactly to the values with `P`, each one over the value of its entry; **then
the reader reads the whole object as these values** (`ReadsEntries.reads_entries`).  An entry that
is not readable leads to none, and an entry that is left in the middle of a number is refused there,
as neither a comma nor a brace follows (`endsNumber_of_entriesFrom`).
-/

namespace GradedQuery.Json

open Text Reader

lemma isShown_of_isNumberChar {c : Char} (h : isNumberChar c = true) : isShown c = true := by
  simp only [isNumberChar, Bool.or_eq_true, decide_eq_true_eq] at h
  rcases h with ((((h | rfl) | rfl) | rfl) | rfl) | rfl
  · have hbound := (Char.isDigit_iff_toNat.1 h).1
    have hzero : '0'.toNat = 48 := rfl
    exact decide_eq_true (by omega)
  all_goals decide

lemma over_writeNumber (x : Float) : Over isShown (writeNumber x) := by
  cases h : writeNumber? x with
  | none =>
      rw [writeNumber, h]
      decide
  | some s =>
      rw [writeNumber, h]
      exact (over_of_writeNumber? h).mono fun _ => isShown_of_isNumberChar

/-! ## One line -/

namespace Document

mutual

/-- **A compact document contains no control character.** -/
theorem over_compact : ∀ d : Document, Over isShown d.compact
  | .null => by rw [compact]; decide
  | .boolean b => by rw [compact]; cases b <;> decide
  | .natural n => by
      rw [compact]
      refine (over_toString n).mono fun c hc => ?_
      exact isShown_of_isNumberChar (isNumberChar_of_isDigit hc)
  | .number x => by rw [compact]; exact over_writeNumber x
  | .text s => by rw [compact]; exact over_writeText s
  | .list items => by
      rw [compact]
      have hitems := Over.intercalate (s := ",") (by decide) (over_compactItems items)
      exact (Over.append (by decide) hitems).append (by decide)
  | .object entries => by
      rw [compact]
      have hentries := Over.intercalate (s := ",") (by decide) (over_compactEntries entries)
      exact (Over.append (by decide) hentries).append (by decide)

theorem over_compactItems : ∀ items : List Document, ∀ s ∈ compactItems items, Over isShown s
  | [] => by rw [compactItems]; exact fun s hs => absurd hs List.not_mem_nil
  | item :: rest => by
      rw [compactItems, List.forall_mem_cons]
      exact ⟨over_compact item, over_compactItems rest⟩

theorem over_compactEntries :
    ∀ entries : List (String × Document), ∀ s ∈ compactEntries entries, Over isShown s
  | [] => by rw [compactEntries]; exact fun s hs => absurd hs List.not_mem_nil
  | (key, value) :: rest => by
      rw [compactEntries, List.forall_mem_cons]
      exact ⟨((over_writeText key).append (by decide)).append (over_compact value),
        over_compactEntries rest⟩

end

end Document

/-! ## Entries -/

section

variable {σ : Type} {step : σ → String → Reader σ} {s t : σ} {key : String} {value : Document}
  {entries : List (String × Document)} {cs rest last : List Char} {P Q : σ → Prop}

lemma entriesFrom_closing_eq_ok_iff {first : Bool} :
    entriesFrom step first s ('\x7d' :: rest) = .ok (t, last) ↔ last = rest ∧ t = s := by
  have hclosing : entriesFrom step first s ('\x7d' :: rest) = .ok (s, rest) := by
    rw [entriesFrom]
    rfl
  rw [hclosing, Except.ok.injEq, Prod.mk.injEq, eq_comm (b := t), eq_comm (b := last), and_comm]

lemma entriesFrom_first (step : σ → String → Reader σ) (s : σ) (cs : List Char) :
    entriesFrom step true s ('"' :: cs) =
      ((entry step s).run cs).bind fun p => entriesFrom step false p.1 p.2 := by
  have hmark : skipSpace ('"' :: cs) = '"' :: cs := skipSpace_cons (by decide) cs
  rw [entriesFrom]
  split
  · next hs => cases hmark.symm.trans hs
  · next hs =>
      cases hmark.symm.trans hs
      rw [if_neg (by decide), if_pos rfl, if_pos rfl]
      split
      · next he => rw [he]; rfl
      · next he => rw [he]; rfl

lemma entriesFrom_next (step : σ → String → Reader σ) (s : σ) (cs : List Char) :
    entriesFrom step false s (',' :: '"' :: cs) =
      ((entry step s).run cs).bind fun p => entriesFrom step false p.1 p.2 := by
  have hcomma : skipSpace (',' :: '"' :: cs) = ',' :: '"' :: cs := skipSpace_cons (by decide) _
  have hmark : skipSpace ('"' :: cs) = '"' :: cs := skipSpace_cons (by decide) cs
  rw [entriesFrom]
  split
  · next hs => cases hcomma.symm.trans hs
  · next hs =>
      cases hcomma.symm.trans hs
      rw [if_neg (by decide), if_neg Bool.false_ne_true, if_pos rfl]
      split
      · next hs => cases hmark.symm.trans hs
      · next hs =>
          cases hmark.symm.trans hs
          rw [if_pos rfl]
          split
          · next he => rw [he]; rfl
          · next he => rw [he]; rfl

/-- Entries go on with a comma or end with a brace, but not like a number. -/
lemma endsNumber_of_entriesFrom (h : entriesFrom step false s cs = .ok (t, rest)) :
    EndsNumber cs := by
  cases cs with
  | nil => exact endsNumber_nil
  | cons c cs =>
      rw [endsNumber_cons_iff, Bool.eq_false_iff]
      intro hc
      have hmark : skipSpace (c :: cs) = c :: cs := skipSpace_cons (not_space_of_isNumberChar hc) cs
      rw [entriesFrom] at h
      split at h
      · cases h
      · next hs =>
          cases hmark.symm.trans hs
          rw [if_neg (by rintro rfl; cases hc), if_neg Bool.false_ne_true,
            if_neg (by rintro rfl; cases hc)] at h
          cases h

/-- What a reader makes of entries, one after the other, where each step reads the colon and the
value of its entry. -/
inductive ReadsEntries (step : σ → String → Reader σ) :
    σ → List (String × Document) → (σ → Prop) → Prop
  | nil {s : σ} : ReadsEntries step s [] (· = s)
  | cons {s : σ} {key : String} {value : Document} {entries : List (String × Document)}
      {P : σ → Prop} {Q : σ → σ → Prop}
      (h : (step s key).Reads (':' :: value.compact.toList) P)
      (hrest : ∀ s', P s' → ReadsEntries step s' entries (Q s')) :
      ReadsEntries step s ((key, value) :: entries) (fun t => ∃ s', P s' ∧ Q s' t)

lemma ReadsEntries.congr (h : ReadsEntries step s entries P) (hPQ : ∀ t, P t ↔ Q t) :
    ReadsEntries step s entries Q := by
  rwa [funext fun t => propext (hPQ t)] at h

/-- The text of an entry behind the opening mark of its key. -/
def entryBody (key : String) (value : Document) : List Char :=
  key.toList.flatMap writeChar ++ ['"'] ++ ':' :: value.compact.toList

/-- A reader of entries goes on behind the ones that it makes something of. -/
lemma entry_bind_eq_ok_iff {R : σ → σ → Prop}
    (h : (step s key).Reads (':' :: value.compact.toList) P) (hcs : EndsNumber cs)
    (hnext : ∀ s', P s' →
      (entriesFrom step false s' cs = .ok (t, last) ↔ last = rest ∧ R s' t)) :
    (((entry step s).run (entryBody key value ++ cs)).bind fun p =>
        entriesFrom step false p.1 p.2) = .ok (t, last) ↔
      last = rest ∧ ∃ s', P s' ∧ R s' t := by
  have hentry : (entry step s).Reads (entryBody key value) P :=
    (takes_textBody key).bind_reads (endsNumber_cons_iff.2 (by decide)) h
  constructor
  · intro hrun
    cases hread : (entry step s).run (entryBody key value ++ cs) with
    | error refusal =>
        rw [hread] at hrun
        cases hrun
    | ok p =>
        obtain ⟨s', mid⟩ := p
        rw [hread] at hrun
        obtain ⟨rfl, hP⟩ := (hentry cs hcs s' mid (endsNumber_of_entriesFrom hrun)).1 hread
        obtain ⟨hlast, hR⟩ := (hnext s' hP).1 hrun
        exact ⟨hlast, s', hP, hR⟩
  · rintro ⟨hlast, s', hP, hR⟩
    rw [(hentry cs hcs s' cs hcs).2 ⟨rfl, hP⟩]
    exact (hnext s' hP).2 ⟨hlast, hR⟩

lemma toList_compactEntry (key : String) (value : Document) :
    (writeText key ++ ":" ++ value.compact).toList =
      '"' :: entryBody key value := by
  simp [toList_writeText, entryBody]

/-- The text of the entries behind the first one, up to the closing brace. -/
def furtherEntries (entries : List (String × Document)) : List Char :=
  (Document.compactEntries entries).flatMap (',' :: ·.toList) ++ ['\x7d']

lemma furtherEntries_cons (key : String) (value : Document) (entries : List (String × Document)) :
    furtherEntries ((key, value) :: entries) =
      ',' :: '"' :: (entryBody key value ++ furtherEntries entries) := by
  rw [furtherEntries, Document.compactEntries, List.flatMap_cons, toList_compactEntry,
    List.append_assoc]
  rfl

lemma endsNumber_furtherEntries (entries : List (String × Document)) (rest : List Char) :
    EndsNumber (furtherEntries entries ++ rest) := by
  cases entries with
  | nil => exact endsNumber_cons_iff.2 (by decide)
  | cons e entries =>
      rw [furtherEntries_cons]
      exact endsNumber_cons_iff.2 (by decide)

/-- The induction is on the entries, of which each one is read with the comma in front of it. -/
lemma ReadsEntries.run_further (h : ReadsEntries step s entries P) (rest last : List Char) (t : σ) :
    entriesFrom step false s (furtherEntries entries ++ rest) = .ok (t, last) ↔
      last = rest ∧ P t := by
  induction h with
  | nil => exact entriesFrom_closing_eq_ok_iff
  | @cons s key value entries P Q h _ ih =>
      rw [furtherEntries_cons, List.cons_append, List.cons_append, List.append_assoc,
        entriesFrom_next]
      exact entry_bind_eq_ok_iff h (endsNumber_furtherEntries entries rest) ih

/-- The text of an object behind its opening brace. -/
def objectBody (entries : List (String × Document)) : List Char :=
  (",".intercalate (Document.compactEntries entries)).toList ++ ['\x7d']

lemma toList_compact_object (entries : List (String × Document)) :
    (Document.object entries).compact.toList = '\x7b' :: objectBody entries := by
  simp [Document.compact, objectBody]

lemma toList_intercalate_cons (part : String) (parts : List String) :
    (",".intercalate (part :: parts)).toList =
      part.toList ++ parts.flatMap (',' :: ·.toList) := by
  induction parts generalizing part with
  | nil => simp
  | cons next parts ih =>
      rw [String.intercalate_cons_cons, String.toList_append, String.toList_append, ih,
        List.flatMap_cons, List.append_assoc]
      rfl

lemma objectBody_cons (key : String) (value : Document) (entries : List (String × Document)) :
    objectBody ((key, value) :: entries) =
      '"' :: (entryBody key value ++ furtherEntries entries) := by
  rw [objectBody, Document.compactEntries, toList_intercalate_cons, toList_compactEntry,
    List.append_assoc]
  rfl

/-- **A reader of entries reads the whole object.** -/
lemma ReadsEntries.reads_entries (h : ReadsEntries step s entries P) :
    (Json.entries step s).Reads (objectBody entries) P := by
  intro rest _ t last _
  show entriesFrom step true s _ = _ ↔ _
  cases h with
  | nil => exact entriesFrom_closing_eq_ok_iff
  | @cons _ key value entries P Q h hrest =>
      rw [objectBody_cons, List.cons_append, List.append_assoc, entriesFrom_first]
      exact entry_bind_eq_ok_iff h (endsNumber_furtherEntries entries rest) fun s' hP =>
        (hrest s' hP).run_further rest last t

lemma ReadsEntries.reads_object (expected : String) (h : ReadsEntries step s entries P) :
    (object expected step s).Reads (Document.object entries).compact.toList P := by
  rw [toList_compact_object]
  exact .of_nextMark? (by decide) (.of_drop h.reads_entries)

end

end GradedQuery.Json
