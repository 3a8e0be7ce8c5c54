import GradedQuery.Json.Document
import GradedQuery.Proofs.CharacterClass
import GradedQuery.Proofs.Taking

/-!
# Texts between quotation marks

Any text can be written as JSON and is read back as it was (`takes_text`).  A character has three
written forms: by its letter, for the marks and the common control characters; by its code, for the
other control characters; and as it is.  **Whichever it is, reading the form gives the character
back** (`textChars_writeChar`), and the closing mark is none of them.

No form contains a control character (`isShown_of_mem_writeChar`), so that a written text never
breaks a line.
-/

namespace GradedQuery.Json

open Reader

variable {c d : Char} {cs ds rest rest' : List Char}

/-! ## Escapes -/

lemma hexDigit?_digitChar {n : Nat} (h : n < 16) : hexDigit? (Nat.digitChar n) = some n := by
  have hall : ∀ n < 16, hexDigit? (Nat.digitChar n) = some n := by decide
  exact hall n h

lemma run_escape_letter (h : shortEscape? c = some d) (rest : List Char) :
    escape.run (c :: rest) = .ok (d, rest) := by
  unfold shortEscape? at h
  split at h <;> cases h <;> rfl

/-- Four hexadecimal digits are read as the number that they denote. -/
lemma run_hexEscape {a b c d : Char} {w x y z : Nat} (ha : hexDigit? a = some w)
    (hb : hexDigit? b = some x) (hc : hexDigit? c = some y) (hd : hexDigit? d = some z)
    (rest : List Char) :
    hexEscape.run (a :: b :: c :: d :: rest) =
      .ok (16 * (16 * (16 * (16 * 0 + w) + x) + y) + z, rest) := by
  have hcount : ¬ utf8Length (a :: b :: c :: d :: rest) < 4 := by
    have ha := Char.utf8Size_pos a
    have hb := Char.utf8Size_pos b
    have hc := Char.utf8Size_pos c
    have hd := Char.utf8Size_pos d
    simp only [utf8Length_cons]
    omega
  have hdigits : [a, b, c, d].mapM hexDigit? = some [w, x, y, z] := by
    simp [ha, hb, hc, hd]
  rw [hexEscape, run_bind_of_ok (a := a :: b :: c :: d :: rest) rfl, if_neg hcount]
  rw [show (a :: b :: c :: d :: rest).take 4 = [a, b, c, d] from rfl, hdigits]
  rfl

/-- A control character is read back from its code. -/
lemma run_escape_code (h : c.toNat < 0x20) (rest : List Char) :
    escape.run ('u' :: '0' :: '0' :: Nat.digitChar (c.toNat / 16) ::
      Nat.digitChar (c.toNat % 16) :: rest) = .ok (c, rest) := by
  have hzero : hexDigit? '0' = some 0 := rfl
  have hcode := run_hexEscape hzero hzero (hexDigit?_digitChar (n := c.toNat / 16) (by omega))
    (hexDigit?_digitChar (n := c.toNat % 16) (by omega)) rest
  have hvalue : 16 * (16 * (16 * (16 * 0 + 0) + 0) + c.toNat / 16) + c.toNat % 16 = c.toNat := by
    omega
  rw [hvalue] at hcode
  show unicodeEscape.run ('0' :: '0' :: _) = _
  rw [unicodeEscape, run_bind_of_ok hcode, if_neg (by omega), if_neg (by omega), Char.ofNat_toNat]
  rfl

/-! ## Characters -/

lemma textChars_closing (escape : Reader Char) (ahead : Nat) (rest : List Char) :
    textChars escape ahead ('"' :: rest) = .ok ([], rest) := by
  rw [textChars, if_pos rfl]

lemma textChars_escaped {escape : Reader Char} {ahead : Nat} (hc : escape.run cs = .ok (c, rest))
    (h : textChars escape ahead rest = .ok (ds, rest')) :
    textChars escape ahead ('\\' :: cs) = .ok (c :: ds, rest') := by
  rw [textChars, if_neg (by decide), if_pos rfl]
  split
  · next he =>
      rw [hc] at he
      cases he
  · next d mid he =>
      rw [hc] at he
      cases he
      rw [h]

lemma textChars_plain {escape : Reader Char} {ahead : Nat} (hquote : c ≠ '"') (hslash : c ≠ '\\')
    (hcontrol : ¬ c.toNat < 0x20) (h : textChars escape ahead rest = .ok (ds, rest')) :
    textChars escape ahead (c :: rest) = .ok (c :: ds, rest') := by
  rw [textChars, if_neg hquote, if_neg hslash, if_neg hcontrol, h]

/-- **Reading the written form of a character gives the character back.** -/
lemma textChars_writeChar {ahead : Nat} (c : Char)
    (h : textChars escape ahead rest = .ok (ds, rest')) :
    textChars escape ahead (writeChar c ++ rest) = .ok (c :: ds, rest') := by
  have hletter : ∀ {m : Char}, shortEscape? m = some c →
      textChars escape ahead ('\\' :: m :: rest) = .ok (c :: ds, rest') :=
    fun hm => textChars_escaped (run_escape_letter hm rest) h
  unfold writeChar
  split
  · exact hletter rfl
  · exact hletter rfl
  · exact hletter rfl
  · exact hletter rfl
  · exact hletter rfl
  · exact hletter rfl
  · exact hletter rfl
  · next hquote hslash _ _ _ _ _ =>
      split
      · next hcontrol => exact textChars_escaped (run_escape_code hcontrol rest) h
      · next hcontrol => exact textChars_plain hquote hslash hcontrol h

lemma textChars_flatMap_writeChar (ahead : Nat) (cs rest : List Char) :
    textChars escape ahead (cs.flatMap writeChar ++ '"' :: rest) = .ok (cs, rest) := by
  induction cs with
  | nil => exact textChars_closing escape ahead rest
  | cons c cs ih =>
      rw [List.flatMap_cons, List.append_assoc]
      exact textChars_writeChar c ih

/-! ## Texts -/

lemma toList_writeText (s : String) :
    (writeText s).toList = '"' :: (s.toList.flatMap writeChar ++ ['"']) := by
  simp [writeText]

lemma takes_textBody (s : String) : textBody.Takes (s.toList.flatMap writeChar ++ ['"']) s := by
  intro rest _
  have hchars := textChars_flatMap_writeChar 1 s.toList rest
  rw [List.append_assoc]
  show (textChars escape 1 _).map _ = _
  rw [List.singleton_append, hchars]
  show Except.ok (String.ofList s.toList, rest) = _
  rw [String.ofList_toList]

/-- **Every text is read back from its written form.** -/
lemma takes_text (expected s : String) : (text expected).Takes (writeText s).toList s := by
  rw [toList_writeText]
  exact .of_nextMark? (by decide) (.of_drop (takes_textBody s))

/-! ## Control characters -/

/-- Whether a character is none of the control characters that JSON forbids in texts. -/
def isShown (c : Char) : Bool := 0x20 ≤ c.toNat

/-- **The written form of a character contains no control character.** -/
lemma isShown_of_mem_writeChar (c : Char) : ∀ d ∈ writeChar c, isShown d = true := by
  have hdigit : ∀ n < 16, isShown (Nat.digitChar n) = true := by decide
  unfold writeChar
  split
  · exact List.all_eq_true.1 rfl
  · exact List.all_eq_true.1 rfl
  · exact List.all_eq_true.1 rfl
  · exact List.all_eq_true.1 rfl
  · exact List.all_eq_true.1 rfl
  · exact List.all_eq_true.1 rfl
  · exact List.all_eq_true.1 rfl
  · split
    · have hmarks : ∀ d ∈ ['\\', 'u', '0', '0'], isShown d = true := List.all_eq_true.1 rfl
      refine List.forall_mem_append.2 ⟨hmarks, List.forall_mem_cons.2 ⟨hdigit _ (by omega), ?_⟩⟩
      exact List.forall_mem_singleton.2 (hdigit _ (by omega))
    · next hcontrol =>
        exact List.forall_mem_singleton.2 (decide_eq_true (Nat.not_lt.1 hcontrol))

lemma over_writeText (s : String) : Text.Over isShown (writeText s) := by
  rw [Text.Over, toList_writeText, List.forall_mem_cons, List.forall_mem_append]
  refine ⟨by decide, fun c hc => ?_, List.forall_mem_singleton.2 (by decide)⟩
  obtain ⟨d, -, hd⟩ := List.mem_flatMap.1 hc
  exact isShown_of_mem_writeChar d c hd

end GradedQuery.Json
