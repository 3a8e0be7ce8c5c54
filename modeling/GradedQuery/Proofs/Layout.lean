import GradedQuery.Formula.Token
import GradedQuery.Proofs.Outcome
import Mathlib.Data.List.TakeWhile

/-!
# Texts of tokens

`Layout offset tokens cs` says how the characters `cs`, which start at the byte `offset`, are made
up of the tokens: of the texts of their lexemes in order, with blank characters anywhere between
them, and with no name running into a character that could belong to it.  Each token carries the
byte at which its text starts.

**Cutting a text is the inverse of laying tokens out** (`tokenizeFrom_eq_ok_iff`).  The two meet
because blank characters, marks and the characters that start a name are three classes without a
common member, so that the first character decides which rule applies.
-/

namespace GradedQuery

variable {c : Char} {cs w : List Char} {l : Lexeme} {offset : Nat} {ts tokens : List Token}

/-- Whether a character list is a name: a name start and then name characters. -/
def isName : List Char → Bool
  | [] => false
  | c :: cs => isNameStart c && cs.all isNameChar

/-- How a text that starts at a byte is made up of tokens. -/
inductive Layout : Nat → List Token → List Char → Prop where
  | nil {offset : Nat} : Layout offset [] []
  | blank {offset : Nat} {ts : List Token} {c : Char} {cs : List Char}
      (hc : Text.isBlank c = true) (h : Layout (offset + c.utf8Size) ts cs) :
      Layout offset ts (c :: cs)
  | mark {offset : Nat} {ts : List Token} {l : Lexeme} {c : Char} {cs : List Char}
      (hc : Lexeme.ofMark? c = some l) (h : Layout (offset + c.utf8Size) ts cs) :
      Layout offset (⟨l, offset⟩ :: ts) (c :: cs)
  | name {offset : Nat} {ts : List Token} {w cs : List Char} (hw : isName w = true)
      (hnext : ∀ c ∈ cs.head?, isNameChar c = false)
      (h : Layout (offset + utf8Length w) ts cs) :
      Layout offset (⟨.name (String.ofList w), offset⟩ :: ts) (w ++ cs)

/-! ## Classes of characters -/

lemma isNameChar_iff : isNameChar c = true ↔ isNameStart c = true ∨ c.isDigit = true := by
  change ((c.isAlpha || c.isDigit) || decide (c = '_')) = true ↔
    (c.isAlpha || decide (c = '_')) = true ∨ c.isDigit = true
  cases c.isAlpha <;> cases c.isDigit <;> cases decide (c = '_') <;> decide

lemma not_blank_of_nameChar (h : isNameChar c = true) : Text.isBlank c = false := by
  have hbound : (48 ≤ c.toNat ∧ c.toNat ≤ 57) ∨ (65 ≤ c.toNat ∧ c.toNat ≤ 90) ∨
      (97 ≤ c.toNat ∧ c.toNat ≤ 122) ∨ c.toNat = 95 := by
    change (((decide (c.val ≥ 'A'.val ∧ c.val ≤ 'Z'.val) ||
      decide (c.val ≥ 'a'.val) && decide (c.val ≤ 'z'.val)) ||
      decide (c.val ≥ '0'.val) && decide (c.val ≤ '9'.val)) || decide (c = '_')) = true at h
    simp only [Bool.or_eq_true, Bool.and_eq_true, decide_eq_true_eq, UInt32.le_iff_toNat_le,
      ge_iff_le] at h
    rcases h with ((h | h) | h) | rfl
    · exact Or.inr (Or.inl h)
    · exact Or.inr (Or.inr (Or.inl h))
    · exact Or.inl h
    · exact Or.inr (Or.inr (Or.inr rfl))
  simp only [Text.isBlank, Text.blankRanges, List.any_cons, List.any_nil, Bool.or_false,
    Bool.or_eq_false_iff, Bool.and_eq_false_iff, decide_eq_false_iff_not, Nat.not_le]
  omega

lemma not_nameChar_of_blank (h : Text.isBlank c = true) : isNameChar c = false := by
  by_contra hname
  rw [not_blank_of_nameChar (by simpa using hname)] at h
  cases h

lemma not_blank_of_nameStart (h : isNameStart c = true) : Text.isBlank c = false :=
  not_blank_of_nameChar (isNameChar_iff.2 (Or.inl h))

lemma not_mark_of_nameStart (h : isNameStart c = true) : Lexeme.ofMark? c = none := by
  unfold Lexeme.ofMark?
  split <;> first | rfl | exact absurd h (by decide)

lemma not_nameChar_of_mark (h : Lexeme.ofMark? c = some l) : isNameChar c = false := by
  unfold Lexeme.ofMark? at h
  split at h <;> first | decide | cases h

lemma not_blank_of_mark (h : Lexeme.ofMark? c = some l) : Text.isBlank c = false := by
  unfold Lexeme.ofMark? at h
  split at h <;> first | decide | cases h

/-! ## Names -/

lemma isName_cons :
    isName (c :: cs) = true ↔ isNameStart c = true ∧ ∀ d ∈ cs, isNameChar d = true := by
  rw [isName, Bool.and_eq_true, List.all_eq_true]

/-- A name that does not run on is cut off where it ends. -/
lemma takeWhile_name (hw : ∀ d ∈ w, isNameChar d = true)
    (hnext : ∀ d ∈ cs.head?, isNameChar d = false) :
    (w ++ cs).takeWhile isNameChar = w ∧ (w ++ cs).dropWhile isNameChar = cs := by
  rw [List.takeWhile_append_of_pos hw, List.dropWhile_append_of_pos hw]
  cases cs with
  | nil => simp
  | cons c cs =>
      have hc : isNameChar c = false := hnext c rfl
      simp [hc]

/-- What the tokenizer cuts off at a name start is a name that does not run on. -/
lemma longest_name (hc : isNameStart c = true) (cs : List Char) :
    c :: cs = (c :: cs.takeWhile isNameChar) ++ cs.dropWhile isNameChar ∧
      isName (c :: cs.takeWhile isNameChar) = true ∧
      ∀ d ∈ (cs.dropWhile isNameChar).head?, isNameChar d = false := by
  refine ⟨?_, isName_cons.2 ⟨hc, fun d hd => List.mem_takeWhile_imp hd⟩, fun d hd => ?_⟩
  · rw [List.cons_append, List.takeWhile_append_dropWhile]
  · have hnot := cs.head?_dropWhile_not isNameChar
    rw [hd] at hnot
    exact hnot

/-! ## Steps of the tokenizer -/

lemma tokenizeFrom_blank (offset : Nat) (hc : Text.isBlank c = true) (cs : List Char) :
    tokenizeFrom offset (c :: cs) = tokenizeFrom (offset + c.utf8Size) cs := by
  rw [tokenizeFrom, if_pos hc]

lemma tokenizeFrom_mark (offset : Nat) (hc : Lexeme.ofMark? c = some l) (cs : List Char) :
    tokenizeFrom offset (c :: cs) =
      (tokenizeFrom (offset + c.utf8Size) cs >>= fun ts => pure (⟨l, offset⟩ :: ts)) := by
  rw [tokenizeFrom, if_neg (by rw [not_blank_of_mark hc]; decide)]
  simp only [hc]

lemma tokenizeFrom_name (offset : Nat) (hw : isName w = true)
    (hnext : ∀ d ∈ cs.head?, isNameChar d = false) :
    tokenizeFrom offset (w ++ cs) =
      (tokenizeFrom (offset + utf8Length w) cs >>= fun ts =>
        pure (⟨.name (String.ofList w), offset⟩ :: ts)) := by
  cases w with
  | nil => exact absurd hw Bool.false_ne_true
  | cons c w =>
      obtain ⟨hc, hw⟩ := isName_cons.1 hw
      obtain ⟨htake, hdrop⟩ := takeWhile_name hw hnext
      rw [List.cons_append, tokenizeFrom, if_neg (by rw [not_blank_of_nameStart hc]; decide)]
      simp only [not_mark_of_nameStart hc, hc, if_true, htake, hdrop]

/-! ## Cutting and laying out -/

/-- **A text is cut into tokens exactly if it is made up of them.** -/
lemma tokenizeFrom_eq_ok_iff : tokenizeFrom offset cs = .ok ts ↔ Layout offset ts cs := by
  constructor
  · intro h
    induction offset, cs using tokenizeFrom.induct generalizing ts with
    | case1 offset =>
        rw [tokenizeFrom] at h
        cases h
        exact .nil
    | case2 offset c rest hc ih =>
        rw [tokenizeFrom_blank offset hc] at h
        exact .blank hc (ih h)
    | case3 offset c rest _ mark hc ih =>
        rw [tokenizeFrom_mark offset hc, bind_eq_ok_iff] at h
        obtain ⟨tail, htail, h⟩ := h
        cases h
        exact .mark hc (ih htail)
    | case4 offset c rest _ _ hc name =>
        rename_i ih
        obtain ⟨hsplit, hname, hnext⟩ := longest_name hc rest
        rw [hsplit] at h ⊢
        rw [tokenizeFrom_name offset hname hnext, bind_eq_ok_iff] at h
        obtain ⟨tail, htail, h⟩ := h
        cases h
        exact .name hname hnext (ih htail)
    | case5 offset c rest hblank hmark hc =>
        rw [tokenizeFrom, if_neg hblank] at h
        simp only [hmark, hc] at h
        cases h
  · intro h
    induction h with
    | nil => rw [tokenizeFrom]
    | blank hc _ ih => rw [tokenizeFrom_blank _ hc, ih]
    | mark hc _ ih =>
        rw [tokenizeFrom_mark _ hc, ih]
        rfl
    | name hw hnext _ ih =>
        rw [tokenizeFrom_name _ hw hnext, ih]
        rfl

/-- The tokens of a text are what it is made up of, and the end mark stands behind its last byte. -/
lemma tokenize_eq_ok_iff {text : String} {tokens : Tokens} :
    tokenize text = .ok tokens ↔
      Layout 0 tokens.list text.toList ∧ tokens.stop = text.utf8ByteSize := by
  obtain ⟨ts, stop⟩ := tokens
  rw [tokenize, bind_eq_ok_iff]
  constructor
  · rintro ⟨ts', hts, h⟩
    cases h
    exact ⟨tokenizeFrom_eq_ok_iff.1 hts, rfl⟩
  · rintro ⟨hts, rfl⟩
    exact ⟨ts, tokenizeFrom_eq_ok_iff.2 hts, rfl⟩

/-- The names among the tokens of a text are names. -/
lemma Layout.isName {w : String} (h : Layout offset ts cs) (hw : .name w ∈ ts.map Token.lexeme) :
    isName w.toList = true := by
  induction h with
  | nil => exact absurd hw List.not_mem_nil
  | blank _ _ ih => exact ih hw
  | @mark offset ts l c cs hc _ ih =>
      rcases List.mem_cons.1 hw with heq | hw
      · have hl : l = .name w := heq.symm
        rw [hl] at hc
        unfold Lexeme.ofMark? at hc
        split at hc <;> cases hc
      · exact ih hw
  | name hname _ _ ih =>
      rcases List.mem_cons.1 hw with heq | hw
      · cases heq
        rw [String.toList_ofList]
        exact hname
      · exact ih hw

end GradedQuery
