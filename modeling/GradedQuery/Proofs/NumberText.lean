import GradedQuery.Json.Document
import GradedQuery.Proofs.CharacterClass
import GradedQuery.Proofs.Taking
import Mathlib

/-!
# Numbers inside a text

A number has no closing mark: its reader goes on as long as it can.  **What it reads off the end of
a text it also reads inside a longer one, and what it refuses there it refuses here**
(`stopsOn_number`), if the longer one does not go on like a number.  So a score in an object is read
as it is read on its own, or not at all (`reads_float`).

`Reader.StopsOn` is what each reader of a part of a number keeps.  It is a property of a reader on
one text and not of a reader alone, as a reader that drops a character it has seen has it only where
there is one.

A number that is not finite has no such text and is written as `null`
(`writeNumber_of_not_isFinite`).  Whether it is finite is decided by its bits, as in the model of
double-precision numbers (`isFinite_of_decode`).
-/

namespace GradedQuery.Json

variable {α β : Type} {c : Char} {cs ds rest : List Char}

namespace Reader

variable {r : Reader α} {next : Option Char → Reader β}

/-- Whether a reader makes the same of a text and of every longer one that does not go on like a
number: it leaves an end of the text, and that and no less of the longer one. -/
def StopsOn (r : Reader α) (cs : List Char) : Prop :=
  ∀ rest, EndsNumber rest → ∀ a last, r.run (cs ++ rest) = .ok (a, last) ↔
    ∃ mid, mid <:+ cs ∧ last = mid ++ rest ∧ r.run cs = .ok (a, mid)

lemma StopsOn.suffix {a : α} {mid : List Char} (h : r.StopsOn cs)
    (hrun : r.run cs = .ok (a, mid)) : mid <:+ cs := by
  rw [← List.append_nil cs] at hrun
  obtain ⟨mid', hmid, rfl, -⟩ := (h [] endsNumber_nil a mid).1 hrun
  rwa [List.append_nil]

/-! ## Sequences and looks ahead -/

lemma stopsOn_of_ok {a : α} {mid : List Char} (hmid : mid <:+ cs)
    (h : ∀ rest, EndsNumber rest → r.run (cs ++ rest) = .ok (a, mid ++ rest)) : r.StopsOn cs := by
  have hshort : r.run cs = .ok (a, mid) := by
    have hrun := h [] endsNumber_nil
    rwa [List.append_nil, List.append_nil] at hrun
  intro rest hrest b last
  rw [h rest hrest, hshort]
  constructor
  · rintro ⟨⟩
    exact ⟨mid, hmid, rfl, rfl⟩
  · rintro ⟨_, -, rfl, ⟨⟩⟩
    rfl

lemma stopsOn_of_error
    (h : ∀ rest, EndsNumber rest → ∃ refusal, r.run (cs ++ rest) = .error refusal) :
    r.StopsOn cs := by
  obtain ⟨refusal, hshort⟩ := h [] endsNumber_nil
  rw [List.append_nil] at hshort
  intro rest hrest b last
  obtain ⟨refusal', hlonger⟩ := h rest hrest
  rw [hlonger, hshort]
  constructor
  · rintro ⟨⟩
  · rintro ⟨_, -, -, ⟨⟩⟩

lemma stopsOn_pure (a : α) (cs : List Char) : (pure a : Reader α).StopsOn cs :=
  stopsOn_of_ok List.suffix_rfl fun _ _ => rfl

lemma stopsOn_refuse (cause : Cause) (ahead : Nat) (cs : List Char) :
    (refuse cause ahead : Reader α).StopsOn cs :=
  stopsOn_of_error fun _ _ => ⟨_, rfl⟩

lemma StopsOn.bind {next : α → Reader β} (hr : r.StopsOn cs)
    (hnext : ∀ a mid, (next a).StopsOn mid) : (r >>= next).StopsOn cs := by
  intro rest hrest b last
  constructor
  · intro h
    obtain ⟨a, _, hfirst, hsecond⟩ := run_bind_eq_ok_iff.1 h
    obtain ⟨mid, hmid, rfl, hshort⟩ := (hr rest hrest a _).1 hfirst
    obtain ⟨last, hlast, rfl, hshort'⟩ := (hnext a mid rest hrest b _).1 hsecond
    exact ⟨last, hlast.trans hmid, rfl, run_bind_eq_ok_iff.2 ⟨a, mid, hshort, hshort'⟩⟩
  · rintro ⟨last, -, rfl, h⟩
    obtain ⟨a, mid, hfirst, hsecond⟩ := run_bind_eq_ok_iff.1 h
    have hmid := hr.suffix hfirst
    have hlast := (hnext a mid).suffix hsecond
    exact run_bind_eq_ok_iff.2 ⟨a, mid ++ rest, (hr rest hrest a _).2 ⟨mid, hmid, rfl, hfirst⟩,
      (hnext a mid rest hrest b _).2 ⟨last, hlast, rfl, hsecond⟩⟩

lemma stopsOn_drop {n : Nat} (h : n ≤ cs.length) : (drop n).StopsOn cs := by
  refine stopsOn_of_ok (a := ()) (List.drop_suffix n cs) fun rest _ => ?_
  show Except.ok ((), (cs ++ rest).drop n) = _
  rw [List.drop_append_of_le_length h]

lemma stopsOn_drop_one (c : Char) (cs : List Char) : (drop 1).StopsOn (c :: cs) :=
  stopsOn_drop (Nat.succ_le_succ (Nat.zero_le _))

/-- A character that is in no number is in no class of number characters. -/
lemma eq_false_of_not_isNumberChar {p : Char → Bool}
    (hp : ∀ c, p c = true → isNumberChar c = true) (hc : isNumberChar c = false) :
    p c = false := by
  rw [Bool.eq_false_iff]
  intro h
  rw [hp c h] at hc
  cases hc

/-- A run of number characters is as long inside a text as at its end. -/
lemma takeWhile_append_of_endsNumber {p : Char → Bool}
    (hp : ∀ c, p c = true → isNumberChar c = true) (cs : List Char) (hrest : EndsNumber rest) :
    (cs ++ rest).takeWhile p = cs.takeWhile p ∧
      (cs ++ rest).dropWhile p = cs.dropWhile p ++ rest := by
  induction cs with
  | nil =>
      cases rest with
      | nil => exact ⟨rfl, rfl⟩
      | cons d rest =>
          have hd : p d = false := eq_false_of_not_isNumberChar hp (hrest d rfl)
          simp [hd]
  | cons c cs ih =>
      obtain ⟨htake, hdrop⟩ := ih
      rw [List.cons_append, List.takeWhile_cons, List.takeWhile_cons, List.dropWhile_cons,
        List.dropWhile_cons, htake, hdrop]
      split <;> exact ⟨rfl, rfl⟩

lemma isNumberChar_of_isDigit (h : c.isDigit = true) : isNumberChar c = true := by
  simp [isNumberChar, h]

lemma not_isDigit_of_not_isNumberChar (h : isNumberChar c = false) : c.isDigit = false :=
  eq_false_of_not_isNumberChar (fun _ => isNumberChar_of_isDigit) h

lemma stopsOn_takeDigits (cs : List Char) : (takeWhile Char.isDigit).StopsOn cs := by
  refine stopsOn_of_ok (a := cs.takeWhile Char.isDigit) (List.dropWhile_suffix Char.isDigit)
    fun rest hrest => ?_
  obtain ⟨htake, hdrop⟩ := takeWhile_append_of_endsNumber (p := Char.isDigit)
    (fun _ => isNumberChar_of_isDigit) cs hrest
  show Except.ok ((cs ++ rest).takeWhile _, (cs ++ rest).dropWhile _) = _
  rw [htake, hdrop]

/-- A reader that looks ahead may find a character where the text ended before.  That is no harm if
it treats a character that is in no number like the end. -/
lemma stopsOn_next? (hnext : ∀ c, isNumberChar c = false → next (some c) = next none)
    (hnone : (next none).StopsOn []) (hsome : ∀ c ds, (next (some c)).StopsOn (c :: ds)) :
    (next? >>= next).StopsOn cs := by
  cases cs with
  | nil =>
      intro rest hrest b last
      have hlonger : (next? >>= next).run ([] ++ rest) = (next none).run ([] ++ rest) := by
        cases rest with
        | nil => rfl
        | cons d rest =>
            show (next (some d)).run _ = _
            rw [hnext d (hrest d rfl)]
      rw [hlonger]
      exact hnone rest hrest b last
  | cons c ds => exact hsome c ds

/-- Nor is it if it refuses both such a character and the end. -/
lemma stopsOn_next?_of_error (hnone : ∃ refusal, (next none).run [] = .error refusal)
    (hother : ∀ c ds, isNumberChar c = false →
      ∃ refusal, (next (some c)).run (c :: ds) = .error refusal)
    (hsome : ∀ c ds, (next (some c)).StopsOn (c :: ds)) : (next? >>= next).StopsOn cs := by
  cases cs with
  | nil =>
      refine stopsOn_of_error fun rest hrest => ?_
      cases rest with
      | nil => exact hnone
      | cons d rest => exact hother d rest (hrest d rfl)
  | cons c ds => exact hsome c ds

/-- A reader may look at all that is left if it depends on the digits in front only. -/
lemma stopsOn_remaining {next : List Char → Reader β}
    (hdigits : ∀ cs ds, cs.takeWhile Char.isDigit = ds.takeWhile Char.isDigit → next cs = next ds)
    (h : (next cs).StopsOn cs) : (remaining >>= next).StopsOn cs := by
  intro rest hrest b last
  have hlonger : (remaining >>= next).run (cs ++ rest) = (next cs).run (cs ++ rest) := by
    show (next (cs ++ rest)).run (cs ++ rest) = _
    rw [hdigits _ cs (takeWhile_append_of_endsNumber (fun _ => isNumberChar_of_isDigit) cs hrest).1]
  rw [hlonger]
  exact h rest hrest b last

end Reader

open Reader Text

/-! ## The parts of a number -/

lemma stopsOn_scaled (negative : Bool) (digits : Nat) (exponent : Int) (cs : List Char) :
    (scaled negative digits exponent).StopsOn cs := by
  rw [scaled]
  split
  · exact stopsOn_pure _ cs
  · exact stopsOn_refuse _ _ cs

lemma stopsOn_exponentTail (zero : Bool) (cs : List Char) : (exponentTail zero).StopsOn cs := by
  have hlength : ∀ cs : List Char, (cs.takeWhile Char.isDigit).length ≤ cs.length :=
    fun cs => (List.takeWhile_sublist _).length_le
  rw [exponentTail]
  refine stopsOn_next?_of_error ⟨_, rfl⟩ (fun sign ds hsign => ?_) fun sign ds => ?_
  · have hplus : sign ≠ '+' := by rintro rfl; cases hsign
    have hminus : sign ≠ '-' := by rintro rfl; cases hsign
    have hmark : next?.run (sign :: ds) = .ok (some sign, sign :: ds) := rfl
    simp only [Option.some.injEq, hplus, hminus, or_self, if_false]
    rw [run_bind_of_ok hmark]
    simp only [not_isDigit_of_not_isNumberChar hsign, Bool.false_eq_true, if_false]
    exact ⟨_, rfl⟩
  -- the digits, behind the sign if there is one
  have hdigits : ∀ (next : Unit → Reader Int), (∀ u cs, (next u).StopsOn cs) →
      (if some sign = some '+' ∨ some sign = some '-' then drop 1 >>= next else next ()).StopsOn
        (sign :: ds) := by
    intro next hnext
    split
    · exact (stopsOn_drop_one _ _).bind fun u mid => hnext u mid
    · exact hnext () _
  refine hdigits _ fun _ cs => ?_
  refine stopsOn_next?_of_error ⟨_, rfl⟩ (fun c ds hc => ?_) fun c ds => ?_
  · simp only [not_isDigit_of_not_isNumberChar hc, Bool.false_eq_true, if_false]
    exact ⟨_, rfl⟩
  dsimp only
  split
  · refine stopsOn_remaining (fun cs ds h => by simp only [h]) ?_
    split
    · exact (stopsOn_drop (hlength _)).bind fun _ => stopsOn_pure _
    · split
      · exact stopsOn_of_error fun _ _ => ⟨_, rfl⟩
      · exact (stopsOn_drop (hlength _)).bind fun _ => stopsOn_pure _
  · exact stopsOn_refuse _ _ _

lemma stopsOn_exponentOrEnd (negative : Bool) (digits : Nat) (exponent : Int) (cs : List Char) :
    (exponentOrEnd negative digits exponent).StopsOn cs := by
  rw [exponentOrEnd]
  refine stopsOn_next? (fun c hc => ?_) (stopsOn_scaled _ _ _ _) fun c ds => ?_
  · split
    · next heq => cases heq; exact absurd hc (by decide)
    · next heq => cases heq; exact absurd hc (by decide)
    · rfl
  · have hexponent : ∀ (next : Int → Reader Number), (∀ e cs, (next e).StopsOn cs) →
        (drop 1 >>= fun _ => exponentTail (digits = 0) >>= next).StopsOn (c :: ds) := by
      intro next hnext
      refine (stopsOn_drop_one _ _).bind fun _ mid => ?_
      exact (stopsOn_exponentTail _ mid).bind hnext
    split
    · exact hexponent _ fun e => stopsOn_scaled _ _ _
    · exact hexponent _ fun e => stopsOn_scaled _ _ _
    · exact stopsOn_scaled _ _ _ _

/-- A number without fraction and exponent. -/
lemma stopsOn_integerTail (negative : Bool) (n : Nat) (excess : Int) (cs : List Char) :
    (if excess ≠ 0 then scaled negative n excess
      else if negative = true then
        if n ≠ 0 ∧ n ≤ Decimal.halfWordCount then pure (.integer (-n)) else scaled negative n 0
      else pure (.integer n)).StopsOn cs := by
  split
  · exact stopsOn_scaled _ _ _ _
  · split
    · split
      · exact stopsOn_pure _ _
      · exact stopsOn_scaled _ _ _ _
    · exact stopsOn_pure _ _

lemma stopsOn_numberTail (negative : Bool) (whole cs : List Char) :
    (numberTail negative whole).StopsOn cs := by
  rw [numberTail]
  obtain ⟨n, count⟩ := takeDigits 0 whole
  refine stopsOn_next? (fun c hc => ?_) (stopsOn_integerTail _ _ _ _) fun c ds => ?_
  · split
    · next heq => cases heq; exact absurd hc (by decide)
    · next heq => cases heq; exact absurd hc (by decide)
    · next heq => cases heq; exact absurd hc (by decide)
    · rfl
  · split
    · refine (stopsOn_drop_one _ _).bind fun _ mid => ?_
      refine (stopsOn_takeDigits mid).bind fun fraction mid => ?_
      split
      · refine stopsOn_next?_of_error ⟨_, rfl⟩ (fun _ _ _ => ⟨_, rfl⟩) fun c ds => ?_
        exact stopsOn_refuse _ _ _
      · exact stopsOn_exponentOrEnd _ _ _ _
    · exact stopsOn_exponentOrEnd _ _ _ _
    · exact stopsOn_exponentOrEnd _ _ _ _
    · exact stopsOn_integerTail _ _ _ _

lemma stopsOn_unsignedNumber (negative : Bool) (cs : List Char) :
    (unsignedNumber negative).StopsOn cs := by
  rw [unsignedNumber]
  refine stopsOn_next?_of_error ⟨_, rfl⟩ (fun c ds hc => ?_) fun c ds => ?_
  · split
    · next heq => cases heq
    · next heq => cases heq; cases hc
    · next heq =>
        cases heq
        rw [if_neg (by rw [not_isDigit_of_not_isNumberChar hc]; exact Bool.false_ne_true)]
        exact ⟨_, rfl⟩
  · split
    · exact stopsOn_refuse _ _ _
    · refine (stopsOn_drop_one _ _).bind fun _ mid => ?_
      refine stopsOn_next? (fun c hc => ?_) (stopsOn_numberTail _ _ _) fun c ds => ?_
      · simp only [not_isDigit_of_not_isNumberChar hc, Bool.false_eq_true, if_false]
      · dsimp only
        split
        · exact stopsOn_refuse _ _ _
        · exact stopsOn_numberTail _ _ _
    · split
      · exact (stopsOn_takeDigits _).bind fun whole mid => stopsOn_numberTail _ _ mid
      · exact stopsOn_refuse _ _ _

/-- **What is made of a number at the end of a text is made of it inside a longer one.** -/
lemma stopsOn_number (cs : List Char) : number.StopsOn cs := by
  rw [number]
  refine stopsOn_next? (fun c hc => ?_) (stopsOn_unsignedNumber _ _) fun c ds => ?_
  · have hminus : some c ≠ some '-' := by
      rintro ⟨⟩
      exact absurd hc (by decide)
    rw [if_neg hminus, if_neg (by decide)]
  · split
    · exact (stopsOn_drop_one _ _).bind fun _ mid => stopsOn_unsignedNumber _ mid
    · exact stopsOn_unsignedNumber _ _

/-! ## Written numbers -/

lemma over_layOut (layout : Decimal.Layout) (d : Decimal.Digits) :
    Over isNumberChar (Decimal.layOut layout d) := by
  have hdigits : ∀ n : Nat, Over isNumberChar (toString n) :=
    fun n => (over_toString n).mono fun _ => isNumberChar_of_isDigit
  have hzeros : ∀ n : Nat, Over isNumberChar (String.ofList (List.replicate n '0')) :=
    fun n => over_ofList fun c hc => by
      rw [List.eq_of_mem_replicate hc]
      decide
  have htext := hdigits d.digits
  simp only [Decimal.layOut]
  split
  · split
    · exact (htext.append (hzeros _)).append (by decide)
    · split
      · refine (Over.append (over_ofList fun c hc => ?_) (by decide)).append
          (over_ofList fun c hc => ?_)
        · exact htext c (List.mem_of_mem_take hc)
        · exact htext c (List.mem_of_mem_drop hc)
      · exact (Over.append (by decide) (hzeros _)).append htext
  · refine ((Over.append ?_ (by decide)).append ?_).append (hdigits _)
    · -- the point stands behind the first digit, if there is another one
      split
      · next first second rest hchars =>
          rw [Over, hchars, List.forall_mem_cons] at htext
          exact over_ofList (List.forall_mem_cons.2 ⟨htext.1,
            List.forall_mem_cons.2 ⟨by decide, htext.2⟩⟩)
      · exact over_ofList htext
    · split <;> decide

/-- A number is written in number characters, if it can be written at all. -/
lemma over_of_writeNumber? {x : Float} {s : String} (h : writeNumber? x = some s) :
    Over isNumberChar s := by
  rw [writeNumber?] at h
  split at h
  · cases h
    refine Over.append ?_ ?_
    · split <;> decide
    · split
      · decide
      · exact over_layOut _ _
  · cases h

/-- A written number is not empty: it has a point or the letter of its exponent. -/
lemma toList_ne_nil_of_writeNumber? {x : Float} {s : String} (h : writeNumber? x = some s) :
    s.toList ≠ [] := by
  have hlayOut (d : Decimal.Digits) : (Decimal.layOut numberLayout d).toList ≠ [] := by
    simp only [Decimal.layOut]
    split_ifs
    all_goals simp
  rw [writeNumber?] at h
  split at h
  · cases h
    rw [Decimal.writeShortest, String.toList_append]
    refine List.append_ne_nil_of_right_ne_nil _ ?_
    split
    · decide
    · exact hlayOut _
  · cases h

/-! ## Reading written numbers -/

/-- A number character that starts no number is refused where a number is wanted. -/
lemma exists_wrongKind_eq_error (hc : isNumberChar c = true)
    (hstart : ¬ (c = '-' ∨ c.isDigit = true)) (cs : List Char) :
    ∃ refusal, (wrongKind "f64" : Reader Float).run (c :: cs) = .error refusal := by
  simp only [isNumberChar, Bool.or_eq_true, decide_eq_true_eq] at hc
  rcases hc with ((((hc | rfl) | rfl) | rfl) | rfl) | rfl
  · exact absurd (Or.inr hc) hstart
  · exact absurd (Or.inl rfl) hstart
  all_goals exact ⟨_, rfl⟩

lemma stopsOn_float (hc : isNumberChar c = true) (cs : List Char) : float.StopsOn (c :: cs) := by
  have hmark : ∀ ds, nextMark?.run (c :: ds) = .ok (some c, c :: ds) :=
    run_nextMark? (not_space_of_isNumberChar hc)
  by_cases hstart : c = '-' ∨ c.isDigit = true
  · have hfloat : ∀ ds, float.run (c :: ds) =
        (number >>= fun n => pure n.toFloat).run (c :: ds) := by
      intro ds
      rw [float, run_bind_of_ok (hmark ds)]
      simp only [hstart, if_true]
    intro rest hrest x last
    rw [List.cons_append, hfloat, hfloat]
    exact (stopsOn_number (c :: cs)).bind (fun n mid => stopsOn_pure n.toFloat mid)
      rest hrest x last
  · refine stopsOn_of_error fun rest _ => ?_
    rw [List.cons_append, float, run_bind_of_ok (hmark _)]
    simp only [hstart, if_false]
    exact exists_wrongKind_eq_error hc hstart _

/-- What a reader leaves of number characters is not passed over like white space. -/
lemma reads_float_of_over {s : String} (hs : s.toList ≠ []) (hover : Over isNumberChar s) :
    float.Reads s.toList (fun y => decode float s.toList = .ok y) := by
  obtain ⟨c, cs, hchars⟩ := List.exists_cons_of_ne_nil hs
  rw [Over, hchars] at hover
  rw [hchars]
  have hstops := stopsOn_float (hover c List.mem_cons_self) cs
  have hnil {mid rest : List Char} (hmid : mid <:+ c :: cs) (h : EndsNumber (mid ++ rest)) :
      mid = [] := by
    cases mid with
    | nil => rfl
    | cons d mid =>
        have hd := hover d (hmid.subset List.mem_cons_self)
        rw [List.cons_append, endsNumber_cons_iff, hd] at h
        cases h
  intro rest hrest y last hlast
  show _ ↔ last = rest ∧ decode float (c :: cs) = .ok y
  rw [hstops rest hrest y last, decode_eq_ok_iff]
  constructor
  · rintro ⟨mid, hmid, rfl, hrun⟩
    obtain rfl := hnil hmid hlast
    exact ⟨rfl, [], hrun, rfl⟩
  · rintro ⟨rfl, mid, hrun, hspace⟩
    have hmid := hstops.suffix hrun
    have hends := endsNumber_of_skipSpace hspace
    rw [← List.append_nil mid] at hends
    obtain rfl := hnil hmid hends
    exact ⟨[], hmid, rfl, hrun⟩

/-- **A number is read inside a text as it is read on its own**, and refused if it is refused there.
-/
lemma reads_float (x : Float) :
    float.Reads (writeNumber x).toList (fun y => decode float (writeNumber x).toList = .ok y) := by
  cases hx : writeNumber? x with
  | none =>
      intro rest hrest y last hlast
      rw [writeNumber, hx]
      constructor
      · rintro ⟨⟩
      · rintro ⟨-, ⟨⟩⟩
  | some s =>
      rw [writeNumber, hx]
      exact reads_float_of_over (toList_ne_nil_of_writeNumber? hx) (over_of_writeNumber? hx)

/-! ## Numbers that are not finite -/

section

open Float.Model Float.Model.UnpackedFloat Decimal

lemma toNat_unpackExponent (bits : UInt64) :
    (@unpackExponent .binary64 bits.toBitVec).toNat =
      bits.toNat / exponentWeight % exponentCount := by
  have hshift : (@unpackExponent .binary64 bits.toBitVec).toNat =
      (bits.toNat >>> 52) % 2 ^ (52 + 11 - 1 - 52 + 1) := by
    simp [unpackExponent, BitVec.extractLsb, BitVec.extractLsb']
  rw [hshift, Nat.shiftRight_eq_div_pow]
  rfl

/-- What is decoded as a finite number is one. -/
lemma isFinite_of_decode {x : Float} {negative : Bool} {b : Binary}
    (h : Decimal.decode x.toBits = .finite negative b) : x.isFinite = true := by
  have hfield : x.toBits.toNat / exponentWeight % exponentCount ≠ exponentCount - 1 := by
    intro hlast
    simp only [Decimal.decode, hlast, if_true] at h
    split at h <;> cases h
  have hexponent : @unpackExponent .binary64 x.toBits.toBitVec ≠ -1#_ := by
    intro hlast
    rw [← toNat_unpackExponent, hlast] at hfield
    exact hfield rfl
  show (UnpackedFloat.unpack .binary64 x.toBits.toBitVec).isFinite = true
  rw [UnpackedFloat.unpack]
  dsimp only
  rw [if_neg hexponent]
  split_ifs <;> rfl

end

/-- A number that is not finite is written as `null`. -/
lemma writeNumber_of_not_isFinite {x : Float} (h : ¬ x.isFinite = true) :
    writeNumber x = "null" := by
  rw [writeNumber, writeNumber?]
  split
  · next hx => exact absurd (isFinite_of_decode hx) h
  · rfl

/-! ## A number that is read back -/

lemma decode_writeNumber_six_tenths : decode float (writeNumber 0.6).toList = .ok 0.6 := by
  have hbits : (0.6 : Float).toBits = 0x3FE3333333333333 := by decide +kernel
  have htext : writeNumber 0.6 = "0.6" := by
    rw [writeNumber, writeNumber?, hbits]
    decide +kernel
  have hvalue : scale? (ofWord 6) (-1) = some 0.6 := by
    rw [scale?, if_pos (by decide), if_neg (by decide)]
    decide +kernel
  have hnumber : number.run ['0', '.', '6'] = .ok (.float 0.6, []) := by
    show (scaled false 6 (-1)).run [] = _
    rw [scaled, hvalue]
    rfl
  have hdigit : '0' = '-' ∨ '0'.isDigit = true := by decide
  have hfloat : float.run ['0', '.', '6'] = .ok (0.6, []) := by
    rw [float, run_bind_of_ok (run_nextMark? (by decide) _)]
    simp only [hdigit, if_true]
    exact run_bind_of_ok hnumber
  rw [htext, decode_eq_ok_iff]
  exact ⟨[], hfloat, rfl⟩

end GradedQuery.Json
