import GradedQuery.Proofs.Layout
import Mathlib.Data.List.Basic

/-!
# Cutting a text into tokens and laying tokens out

Two descriptions of a text that do not mention the tokenizer.

* `LaidOut start tokens stop cs` — the characters `cs`, which go from the byte `start` to the byte
  `stop`, are the texts of the tokens in order, with a gap of blank characters, possibly empty,
  before each of them and at the end.
  `Layout` says the same one character at a time, which is the form for inductions
  (`laidOut_iff`).
* `FirstStray cs stray` — `stray` is the leftmost character that is neither blank nor a mark nor
  a part of a name, where a name reaches as far to both sides as it can (`InLongestName`).

**A text is cut into tokens exactly if it is laid out from them, and refused exactly at its first
stray character** (`tokenize_iff_laidOut`).  A digit is what makes the second half more than a
reading of the code: it is stray or not depending on what stands before it, and the tokenizer never
looks back.  That it need not do so is the invariant `Apart`: it only stops between two characters
that cannot stand in one name.
-/

namespace GradedQuery

variable {c : Char} {l : Lexeme} {cs before behind w : List Char} {offset start stop : Nat}
  {ts : List Token} {text : String} {stray stray' : StrayCharacter}

/-! ## Laying tokens out -/

/-- Whether a lexeme can be followed by these characters: the text of a name is one, and no
character follows that could belong to it. -/
def Lexeme.EndsBefore (l : Lexeme) (rest : List Char) : Prop :=
  ∀ w, l = .name w → isName w.toList = true ∧ ∀ c ∈ rest.head?, isNameChar c = false

/-- Whether the characters from one byte to another are the texts of the tokens in order, with
blank characters between them. -/
def LaidOut : Nat → List Token → Nat → List Char → Prop
  | start, [], stop, cs =>
      (∀ c ∈ cs, Text.isBlank c = true) ∧ stop = start + utf8Length cs
  | start, t :: ts, stop, cs =>
      ∃ gap rest, cs = gap ++ (t.lexeme.chars ++ rest) ∧ (∀ c ∈ gap, Text.isBlank c = true) ∧
        t.offset = start + utf8Length gap ∧ t.lexeme.EndsBefore rest ∧
        LaidOut (t.offset + utf8Length t.lexeme.chars) ts stop rest

lemma chars_of_ofMark? (h : Lexeme.ofMark? c = some l) : l.chars = [c] := by
  unfold Lexeme.ofMark? at h
  split at h <;> cases h <;> rfl

lemma endsBefore_of_ofMark? (h : Lexeme.ofMark? c = some l) (rest : List Char) :
    l.EndsBefore rest := by
  rintro w rfl
  unfold Lexeme.ofMark? at h
  split at h <;> cases h

lemma exists_ofMark? (h : ∀ w, l ≠ .name w) :
    ∃ c, l.chars = [c] ∧ Lexeme.ofMark? c = some l := by
  cases l with
  | name w => exact absurd rfl (h w)
  | _ => exact ⟨_, rfl, rfl⟩

lemma Layout.gap {gap : List Char} (hgap : ∀ c ∈ gap, Text.isBlank c = true)
    (h : Layout (start + utf8Length gap) ts cs) : Layout start ts (gap ++ cs) := by
  induction gap generalizing start with
  | nil => exact h
  | cons c gap ih =>
      obtain ⟨hc, hgap⟩ := List.forall_mem_cons.1 hgap
      rw [utf8Length_cons, ← Nat.add_assoc] at h
      exact .blank hc (ih hgap h)

lemma Layout.token (hl : l.EndsBefore cs) (h : Layout (offset + utf8Length l.chars) ts cs) :
    Layout offset (⟨l, offset⟩ :: ts) (l.chars ++ cs) := by
  by_cases hname : ∃ w, l = .name w
  · obtain ⟨w, rfl⟩ := hname
    obtain ⟨hw, hnext⟩ := hl w rfl
    have hlayout : Layout offset (⟨.name (String.ofList w.toList), offset⟩ :: ts)
        (w.toList ++ cs) := .name hw hnext h
    rwa [String.ofList_toList] at hlayout
  · obtain ⟨c, hchars, hc⟩ := exists_ofMark? (not_exists.1 hname)
    rw [hchars] at h ⊢
    exact .mark hc h

lemma LaidOut.blank (hc : Text.isBlank c = true) (h : LaidOut (start + c.utf8Size) ts stop cs) :
    LaidOut start ts stop (c :: cs) := by
  cases ts with
  | nil =>
      obtain ⟨hblank, hstop⟩ := h
      refine ⟨List.forall_mem_cons.2 ⟨hc, hblank⟩, ?_⟩
      rw [hstop, utf8Length_cons, Nat.add_assoc]
  | cons t ts =>
      obtain ⟨gap, rest, rfl, hgap, hoffset, hl, h⟩ := h
      refine ⟨c :: gap, rest, rfl, List.forall_mem_cons.2 ⟨hc, hgap⟩, ?_, hl, h⟩
      rw [hoffset, utf8Length_cons, Nat.add_assoc]

lemma LaidOut.token (hl : l.EndsBefore cs) (hw : l.chars = w)
    (h : LaidOut (offset + utf8Length w) ts stop cs) :
    LaidOut offset (⟨l, offset⟩ :: ts) stop (w ++ cs) := by
  subst hw
  exact ⟨[], cs, rfl, by simp, rfl, hl, h⟩

lemma Layout.laidOut (h : Layout start ts cs) (hstop : stop = start + utf8Length cs) :
    LaidOut start ts stop cs := by
  induction h with
  | nil => exact ⟨by simp, hstop⟩
  | blank hc _ ih =>
      rw [utf8Length_cons, ← Nat.add_assoc] at hstop
      exact .blank hc (ih hstop)
  | @mark offset ts l c cs hc _ ih =>
      rw [utf8Length_cons, ← Nat.add_assoc] at hstop
      exact .token (endsBefore_of_ofMark? hc cs) (chars_of_ofMark? hc) (ih hstop)
  | @name offset ts w cs hw hnext _ ih =>
      rw [utf8Length_append, ← Nat.add_assoc] at hstop
      refine .token ?_ (String.toList_ofList (l := w)) (ih hstop)
      intro w' hw'
      cases hw'
      rw [String.toList_ofList]
      exact ⟨hw, hnext⟩

lemma laidOut_iff :
    LaidOut start ts stop cs ↔ Layout start ts cs ∧ stop = start + utf8Length cs := by
  constructor
  · intro h
    induction ts generalizing start cs with
    | nil =>
        obtain ⟨hblank, hstop⟩ := h
        have hgap : Layout start [] (cs ++ []) := Layout.gap hblank .nil
        rw [List.append_nil] at hgap
        exact ⟨hgap, hstop⟩
    | cons t ts ih =>
        obtain ⟨gap, rest, rfl, hgap, hoffset, hl, h⟩ := h
        obtain ⟨hlayout, hstop⟩ := ih h
        refine ⟨.gap hgap (hoffset ▸ hlayout.token hl), ?_⟩
        rw [hstop, hoffset, utf8Length_append, utf8Length_append, Nat.add_assoc, Nat.add_assoc]
  · rintro ⟨h, hstop⟩
    exact h.laidOut hstop

/-! ## Stray characters -/

/-- Whether a character, with what stands before and behind it, is a part of a name that cannot be
made longer on either side. -/
def InLongestName (before : List Char) (c : Char) (behind : List Char) : Prop :=
  ∃ a u v b, before = a ++ u ∧ behind = v ++ b ∧ isName (u ++ c :: v) = true ∧
    ∀ x y, x <:+ a → y <+: b → isName (x ++ (u ++ c :: v) ++ y) = true → x = [] ∧ y = []

/-- Whether a character, with what stands before and behind it, has a place in a formula. -/
def Belongs (before : List Char) (c : Char) (behind : List Char) : Prop :=
  Text.isBlank c = true ∨ c ∈ ['&', '|', '!', '(', ')', ','] ∨ InLongestName before c behind

/-- Whether all characters of a text that stand before the given ones have a place in a formula. -/
def AllBelong (before behind : List Char) : Prop :=
  ∀ b d a, before = b ++ d :: a → Belongs b d (a ++ behind)

/-- Whether this is the leftmost character that has no place in a formula, with its byte. -/
def FirstStray (cs : List Char) (stray : StrayCharacter) : Prop :=
  ∃ before behind, cs = before ++ stray.character :: behind ∧ stray.offset = utf8Length before ∧
    AllBelong before (stray.character :: behind) ∧ ¬ Belongs before stray.character behind

lemma isSome_ofMark?_iff :
    (Lexeme.ofMark? c).isSome = true ↔ c ∈ ['&', '|', '!', '(', ')', ','] := by
  constructor
  · intro h
    unfold Lexeme.ofMark? at h
    split at h <;> first | decide | cases h
  · intro h
    simp only [List.mem_cons, List.not_mem_nil, or_false] at h
    rcases h with rfl | rfl | rfl | rfl | rfl | rfl <;> rfl

lemma nameChar_of_isName (hw : isName w = true) : ∀ d ∈ w, isNameChar d = true := by
  cases w with
  | nil => simp
  | cons c w =>
      obtain ⟨hc, hw⟩ := isName_cons.1 hw
      exact List.forall_mem_cons.2 ⟨isNameChar_iff.2 (Or.inl hc), hw⟩

/-- A stray character has no place among characters that have one. -/
lemma prefix_of_not_belongs {c' : Char} {before' behind' : List Char}
    (heq : before ++ c :: behind = before' ++ c' :: behind')
    (hall : AllBelong before' (c' :: behind')) (hstray : ¬ Belongs before c behind) :
    before' <+: before := by
  rcases List.append_eq_append_iff.1 heq with ⟨e, rfl, he⟩ | ⟨e, rfl, -⟩
  · cases e with
    | nil => simp
    | cons d e =>
        cases he
        exact absurd (hall before c e rfl) (by simpa using hstray)
  · exact List.prefix_append before' e

lemma FirstStray.unique (h : FirstStray cs stray) (h' : FirstStray cs stray') : stray = stray' := by
  obtain ⟨before, behind, rfl, hoffset, hall, hstray⟩ := h
  obtain ⟨before', behind', heq, hoffset', hall', hstray'⟩ := h'
  have hle : before' <+: before := prefix_of_not_belongs heq hall' hstray
  have hge : before <+: before' := prefix_of_not_belongs heq.symm hall hstray'
  obtain rfl := hle.eq_of_length_le hge.length_le
  have hrest := List.append_cancel_left heq
  obtain ⟨c, offset⟩ := stray
  obtain ⟨c', offset'⟩ := stray'
  simp_all

lemma not_firstStray (h : AllBelong cs []) : ¬ FirstStray cs stray := by
  rintro ⟨before, behind, rfl, -, -, hstray⟩
  have hbelongs := h before stray.character behind rfl
  rw [List.append_nil] at hbelongs
  exact hstray hbelongs

lemma AllBelong.append (h : AllBelong before (w ++ behind))
    (hw : ∀ b d a, w = b ++ d :: a → Belongs (before ++ b) d (a ++ behind)) :
    AllBelong (before ++ w) behind := by
  intro b d a heq
  rcases List.append_eq_append_iff.1 heq with ⟨e, rfl, he⟩ | ⟨e, rfl, he⟩
  · exact hw e d a he
  · cases e with
    | nil =>
        have hbelongs := hw [] d a he.symm
        rwa [List.append_nil, List.append_nil] at hbelongs
    | cons d' e =>
        cases he
        have hbelongs := h b d e rfl
        rwa [← List.append_assoc] at hbelongs

/-! ## The tokenizer stops between names -/

/-- Whether two stretches of characters do not meet inside of a name. -/
def Apart (before cs : List Char) : Prop :=
  ∀ x ∈ before.getLast?, ∀ y ∈ cs.head?, isNameChar x = true → isNameChar y = false

lemma apart_of_last (hc : isNameChar c = false) (before cs : List Char) :
    Apart (before ++ [c]) cs := by
  intro x hx y _ hname
  rw [List.getLast?_concat] at hx
  cases hx
  simp [hc] at hname

lemma apart_of_head (h : ∀ d ∈ cs.head?, isNameChar d = false) (before : List Char) :
    Apart before cs := fun _ _ y hy _ => h y hy

lemma Apart.of_isName (h : Apart before (w ++ cs)) (hw : isName w = true) :
    ∀ d ∈ before.getLast?, isNameChar d = false := by
  cases w with
  | nil => cases hw
  | cons c w =>
      intro d hd
      by_contra hname
      have hc := h d hd c rfl (by simpa using hname)
      simp [nameChar_of_isName hw c List.mem_cons_self] at hc

/-- A name between characters that cannot make it longer belongs to the text. -/
lemma belongs_of_isName {u v : List Char} (hname : isName (u ++ c :: v) = true)
    (hbefore : ∀ d ∈ before.getLast?, isNameChar d = false)
    (hbehind : ∀ d ∈ behind.head?, isNameChar d = false) :
    Belongs (before ++ u) c (v ++ behind) := by
  refine Or.inr (Or.inr ⟨before, u, v, behind, rfl, rfl, hname, ?_⟩)
  rintro x y ⟨p, rfl⟩ ⟨q, rfl⟩ hlonger
  have hall := nameChar_of_isName hlonger
  constructor
  · rcases x.eq_nil_or_concat' with hx | ⟨x, d, rfl⟩
    · exact hx
    · have hd : isNameChar d = false := hbefore d (by simp)
      simp [hall d (by simp)] at hd
  · cases y with
    | nil => rfl
    | cons d y =>
        have hd : isNameChar d = false := hbehind d rfl
        simp [hall d (by simp)] at hd

/-- A character that starts nothing and does not go on with a name has no place. -/
lemma not_belongs (hblank : ¬ Text.isBlank c = true) (hmark : Lexeme.ofMark? c = none)
    (hstart : ¬ isNameStart c = true) (hapart : Apart before (c :: behind)) :
    ¬ Belongs before c behind := by
  rintro (h | h | ⟨a, u, v, b, rfl, rfl, hname, -⟩)
  · exact hblank h
  · rw [← isSome_ofMark?_iff, hmark] at h
    cases h
  · have hall := nameChar_of_isName hname
    rcases u.eq_nil_or_concat' with rfl | ⟨u, d, rfl⟩
    · exact hstart (isName_cons.1 hname).1
    · have hc : isNameChar c = false := hapart d (by simp) c rfl (hall d (by simp))
      simp [hall c (by simp)] at hc

/-- What an outcome of the tokenizer says about the characters of the text. -/
def Scanned (cs : List Char) : Except StrayCharacter (List Token) → Prop
  | .ok _ => AllBelong cs []
  | .error stray => FirstStray cs stray

lemma Scanned.bind {x : Except StrayCharacter (List Token)} (h : Scanned cs x) (t : Token) :
    Scanned cs (x >>= fun ts => pure (t :: ts)) := by
  cases x with
  | error stray => exact h
  | ok ts => exact h

/-- One character after which no name goes on is passed over. -/
lemma AllBelong.concat (h : AllBelong before (c :: cs)) (hc : Belongs before c cs) :
    AllBelong (before ++ [c]) cs := by
  refine AllBelong.append h fun b d a heq => ?_
  cases b with
  | nil =>
      cases heq
      rwa [List.append_nil]
  | cons e b => simp at heq

/-- **The tokenizer scans what is left of a text from a place that is in no name.** -/
lemma scanned_tokenizeFrom (hapart : Apart before cs) (hbefore : AllBelong before cs)
    (hoffset : offset = utf8Length before) :
    Scanned (before ++ cs) (tokenizeFrom offset cs) := by
  induction offset, cs using tokenizeFrom.induct generalizing before with
  | case1 offset =>
      rw [tokenizeFrom, List.append_nil]
      exact hbefore
  | case2 offset c rest hc ih =>
      have hscan := ih (apart_of_last (not_nameChar_of_blank hc) before rest)
        (hbefore.concat (Or.inl hc)) (by simp [hoffset])
      rw [List.append_assoc] at hscan
      rw [tokenizeFrom_blank offset hc]
      exact hscan
  | case3 offset c rest _ mark hc ih =>
      have hbelongs : Belongs before c rest :=
        Or.inr (Or.inl (isSome_ofMark?_iff.1 (Option.isSome_of_eq_some hc)))
      have hscan := ih (apart_of_last (not_nameChar_of_mark hc) before rest)
        (hbefore.concat hbelongs) (by simp [hoffset])
      rw [List.append_assoc] at hscan
      rw [tokenizeFrom_mark offset hc]
      exact hscan.bind _
  | case4 offset c rest _ _ hc name =>
      rename_i ih
      obtain ⟨hsplit, hname, hnext⟩ := longest_name hc rest
      rw [hsplit] at hapart hbefore ⊢
      -- the name is a longest one: it is not in the middle of one, and it was cut off where it ends
      have hfirst := hapart.of_isName hname
      have hpassed : AllBelong (before ++ name) (rest.dropWhile isNameChar) :=
        hbefore.append fun b d a heq => belongs_of_isName (heq ▸ hname) hfirst hnext
      have hscan := ih (apart_of_head hnext _) hpassed (by simp [hoffset])
      rw [List.append_assoc] at hscan
      rw [tokenizeFrom_name offset hname hnext]
      exact hscan.bind _
  | case5 offset c rest hblank hmark hc =>
      rw [tokenizeFrom, if_neg hblank]
      simp only [hmark, hc]
      exact ⟨before, rest, rfl, hoffset, hbefore, not_belongs hblank hmark hc hapart⟩

/-- **A text is refused exactly at its first stray character.** -/
lemma tokenize_eq_error_iff : tokenize text = .error stray ↔ FirstStray text.toList stray := by
  have hapart : Apart [] text.toList := fun x hx => absurd hx (by simp)
  have hbefore : AllBelong [] text.toList := fun b d a heq => absurd heq (by simp)
  have hscan : Scanned text.toList (tokenizeFrom 0 text.toList) :=
    scanned_tokenizeFrom hapart hbefore rfl
  rw [tokenize]
  cases hx : tokenizeFrom 0 text.toList with
  | ok ts =>
      rw [hx] at hscan
      exact iff_of_false (fun h => by cases h) (not_firstStray hscan)
  | error stray' =>
      rw [hx] at hscan
      constructor
      · intro h
        cases h
        exact hscan
      · intro h
        rw [FirstStray.unique h hscan]
        rfl

/-- A text that is laid out from some tokens ends behind its last byte. -/
lemma laidOut_toList_iff :
    LaidOut 0 ts stop text.toList ↔ Layout 0 ts text.toList ∧ stop = text.utf8ByteSize := by
  rw [laidOut_iff, utf8Length_toList, Nat.zero_add]

/-- **Cutting a text into tokens is the inverse of laying tokens out**, with the end mark behind the
last byte.  There is at most one list of tokens that a text can be laid out from, and if there is
none, the text has a first stray character, at which it is refused. -/
theorem tokenize_iff_laidOut (text : String) :
    (∀ tokens, tokenize text = .ok tokens ↔ LaidOut 0 tokens.list tokens.stop text.toList) ∧
      (∀ tokens, tokenize text = .ok tokens →
        tokens.marks.getLast? = some (none, text.utf8ByteSize)) ∧
      (∀ ts stop ts' stop', LaidOut 0 ts stop text.toList → LaidOut 0 ts' stop' text.toList →
        ts = ts' ∧ stop = stop') ∧
      (∀ stray, tokenize text = .error stray ↔ FirstStray text.toList stray) ∧
      ((∃ ts, LaidOut 0 ts text.utf8ByteSize text.toList) ∨
        ∃ stray, FirstStray text.toList stray) := by
  refine ⟨fun tokens => ?_, fun tokens h => ?_, fun ts stop ts' stop' h h' => ?_,
    fun stray => tokenize_eq_error_iff, ?_⟩
  · rw [tokenize_eq_ok_iff, laidOut_toList_iff]
  · rw [Tokens.marks, List.getLast?_concat, (tokenize_eq_ok_iff.1 h).2]
  · obtain ⟨hlayout, rfl⟩ := laidOut_toList_iff.1 h
    obtain ⟨hlayout', rfl⟩ := laidOut_toList_iff.1 h'
    have htokens := tokenizeFrom_eq_ok_iff.2 hlayout
    rw [tokenizeFrom_eq_ok_iff.2 hlayout'] at htokens
    cases htokens
    exact ⟨rfl, rfl⟩
  · cases hx : tokenize text with
    | ok tokens =>
        obtain ⟨hlayout, -⟩ := tokenize_eq_ok_iff.1 hx
        exact .inl ⟨tokens.list, laidOut_toList_iff.2 ⟨hlayout, rfl⟩⟩
    | error stray => exact .inr ⟨stray, tokenize_eq_error_iff.1 hx⟩

end GradedQuery
