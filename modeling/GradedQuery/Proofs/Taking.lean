import GradedQuery.Json.Reader
import Mathlib.Tactic.Lemma

/-!
# What a reader takes off a text

A written value is followed by more text, and a reader has to take exactly the value off it.  That
needs one thing of what follows: it must not go on like a number, since nothing else marks the end
of one.

* `Reader.Takes r cs a` says that the reader `r` takes `cs` off every text that starts with it and
  goes on otherwise, and that it yields `a`.
* `Reader.Reads r cs P` is the same for a value that need not be readable: the reader takes `cs`,
  and **what it yields are exactly the values with `P`**.  Of results that end in the middle of a
  number it says nothing; whatever comes next refuses those.

Readers in sequence take the parts of a text one after the other (`Takes.bind`,
`Takes.bind_reads`), so that a reader of written values is followed through its steps without ever
naming the text behind.
-/

namespace GradedQuery.Json

variable {α β : Type} {a : α} {b : β} {c : Char} {cs ds rest : List Char}

/-- Whether a character can stand in a number. -/
def isNumberChar (c : Char) : Bool :=
  c.isDigit || c = '-' || c = '+' || c = '.' || c = 'e' || c = 'E'

/-- Whether a text does not go on like a number. -/
def EndsNumber (cs : List Char) : Prop := ∀ c ∈ cs.head?, isNumberChar c = false

lemma endsNumber_nil : EndsNumber [] := fun c hc => by cases hc

lemma endsNumber_cons_iff : EndsNumber (c :: cs) ↔ isNumberChar c = false := by
  simp [EndsNumber]

lemma EndsNumber.append (hcs : EndsNumber cs) (hds : EndsNumber ds) : EndsNumber (cs ++ ds) := by
  cases cs with
  | nil => exact hds
  | cons c cs => exact endsNumber_cons_iff.2 (hcs c rfl)

lemma not_space_of_isNumberChar (hc : isNumberChar c = true) : isSpace c = false := by
  cases hspace : isSpace c with
  | false => rfl
  | true =>
      simp only [isSpace, Bool.or_eq_true, decide_eq_true_eq] at hspace
      rcases hspace with ((rfl | rfl) | rfl) | rfl <;> exact absurd hc (by decide)

/-- A text that does not start with white space is kept. -/
lemma skipSpace_cons (hc : isSpace c = false) (cs : List Char) : skipSpace (c :: cs) = c :: cs := by
  rw [skipSpace, List.dropWhile_cons, hc]
  rfl

/-- White space does not go on like a number. -/
lemma endsNumber_of_skipSpace (h : skipSpace cs = []) : EndsNumber cs := by
  cases cs with
  | nil => exact endsNumber_nil
  | cons c cs =>
      rw [endsNumber_cons_iff, Bool.eq_false_iff]
      intro hc
      rw [skipSpace_cons (not_space_of_isNumberChar hc)] at h
      cases h

namespace Reader

variable {r : Reader α} {next : α → Reader β} {P Q : α → Prop} {R : β → Prop}

/-! ## Steps of readers -/

lemma run_bind_of_ok (h : r.run cs = .ok (a, rest)) :
    (r >>= next).run cs = (next a).run rest := by
  simp only [bind, h]

lemma run_bind_eq_ok_iff :
    (r >>= next).run cs = .ok (b, rest) ↔
      ∃ a mid, r.run cs = .ok (a, mid) ∧ (next a).run mid = .ok (b, rest) := by
  cases h : r.run cs with
  | error e => simp [bind, h]
  | ok p =>
      obtain ⟨a, mid⟩ := p
      rw [run_bind_of_ok h]
      constructor
      · exact fun hb => ⟨a, mid, rfl, hb⟩
      · rintro ⟨a', mid', heq, hb⟩
        cases heq
        exact hb

/-- A mark that is no white space is found at once. -/
lemma run_nextMark? (hc : isSpace c = false) (cs : List Char) :
    nextMark?.run (c :: cs) = .ok (some c, c :: cs) := by
  have hskip : (Reader.takeWhile isSpace).run (c :: cs) = .ok ([], c :: cs) := by
    simp [takeWhile, hc]
  rw [nextMark?, run_bind_of_ok hskip]
  rfl

/-! ## Taking -/

/-- Whether a reader takes `cs` off every text that starts with it and does not go on like a
number, and yields `a`. -/
def Takes (r : Reader α) (cs : List Char) (a : α) : Prop :=
  ∀ rest, EndsNumber rest → r.run (cs ++ rest) = .ok (a, rest)

lemma takes_pure (a : α) : (pure a : Reader α).Takes [] a := fun _ _ => rfl

/-- **Readers in sequence take the parts of a text one after the other**, if a number in the first
part is not run into by the second one. -/
lemma Takes.bind (hr : r.Takes cs a) (hds : EndsNumber ds) (hnext : (next a).Takes ds b) :
    (r >>= next).Takes (cs ++ ds) b := by
  intro rest hrest
  rw [List.append_assoc, run_bind_of_ok (hr _ (hds.append hrest))]
  exact hnext rest hrest

/-- A reader may go on without taking anything more. -/
lemma Takes.bind_nil (hr : r.Takes cs a) (hnext : (next a).Takes [] b) :
    (r >>= next).Takes cs b := by
  have hall := hr.bind endsNumber_nil hnext
  rwa [List.append_nil] at hall

/-- Looking at the next mark takes nothing. -/
lemma Takes.of_nextMark? {next : Option Char → Reader β} (hc : isSpace c = false)
    (h : (next (some c)).Takes (c :: cs) b) : (nextMark? >>= next).Takes (c :: cs) b := by
  intro rest hrest
  rw [List.cons_append, run_bind_of_ok (run_nextMark? hc _)]
  exact h rest hrest

lemma Takes.of_drop {next : Unit → Reader β} (h : (next ()).Takes cs b) :
    (Reader.drop 1 >>= next).Takes (c :: cs) b :=
  h

/-! ## Reading -/

/-- Whether a reader takes `cs` off every text that starts with it and does not go on like a
number, and can yield exactly the values with `P`, unless it leaves a text that does. -/
def Reads (r : Reader α) (cs : List Char) (P : α → Prop) : Prop :=
  ∀ rest, EndsNumber rest → ∀ a last, EndsNumber last →
    (r.run (cs ++ rest) = .ok (a, last) ↔ last = rest ∧ P a)

lemma Reads.congr (h : r.Reads cs P) (hPQ : ∀ a, P a ↔ Q a) : r.Reads cs Q := by
  intro rest hrest a last hlast
  rw [h rest hrest a last hlast, hPQ]

lemma Takes.reads (h : r.Takes cs a) : r.Reads cs (· = a) := by
  intro rest hrest b last _
  rw [h rest hrest]
  constructor
  · rintro ⟨⟩
    exact ⟨rfl, rfl⟩
  · rintro ⟨rfl, rfl⟩
    rfl

/-- What is read behind a part that is taken. -/
lemma Takes.bind_reads (hr : r.Takes cs a) (hds : EndsNumber ds) (hnext : (next a).Reads ds R) :
    (r >>= next).Reads (cs ++ ds) R := by
  intro rest hrest b last hlast
  rw [List.append_assoc, run_bind_of_ok (hr _ (hds.append hrest))]
  exact hnext rest hrest b last hlast

/-- A reader may go on without taking anything more. -/
lemma Reads.bind_nil {S : α → β → Prop} (hr : r.Reads cs P)
    (hnext : ∀ a mid b last, (next a).run mid = .ok (b, last) ↔ last = mid ∧ S a b) :
    (r >>= next).Reads cs (fun b => ∃ a, P a ∧ S a b) := by
  intro rest hrest b last hlast
  rw [run_bind_eq_ok_iff]
  constructor
  · rintro ⟨a, mid, hrun, hb⟩
    obtain ⟨rfl, hS⟩ := (hnext a mid b last).1 hb
    obtain ⟨rfl, hP⟩ := (hr rest hrest a last hlast).1 hrun
    exact ⟨rfl, a, hP, hS⟩
  · rintro ⟨rfl, a, hP, hS⟩
    exact ⟨a, last, (hr last hrest a last hlast).2 ⟨rfl, hP⟩, (hnext a last b last).2 ⟨rfl, hS⟩⟩

lemma Reads.bind_pure (hr : r.Reads cs P) (f : α → β) :
    (r >>= fun a => pure (f a)).Reads cs (fun b => ∃ a, P a ∧ b = f a) := by
  refine hr.bind_nil fun a mid b last => ?_
  constructor
  · rintro ⟨⟩
    exact ⟨rfl, rfl⟩
  · rintro ⟨rfl, rfl⟩
    rfl

lemma Reads.of_nextMark? {next : Option Char → Reader β} (hc : isSpace c = false)
    (h : (next (some c)).Reads (c :: cs) R) : (nextMark? >>= next).Reads (c :: cs) R := by
  intro rest hrest
  rw [List.cons_append, run_bind_of_ok (run_nextMark? hc _)]
  exact h rest hrest

lemma Reads.of_drop {next : Unit → Reader β} (h : (next ()).Reads cs R) :
    (Reader.drop 1 >>= next).Reads (c :: cs) R :=
  h

end Reader

/-! ## Whole texts -/

lemma decode_eq_ok_iff {r : Reader α} :
    decode r cs = .ok a ↔ ∃ mid, r.run cs = .ok (a, mid) ∧ skipSpace mid = [] := by
  rw [decode]
  constructor
  · intro h
    split at h
    · cases h
    · next b mid hrun =>
        split at h
        · next hmid =>
            cases h
            exact ⟨mid, hrun, hmid⟩
        · cases h
  · rintro ⟨mid, hrun, hmid⟩
    rw [hrun]
    simp only [hmid]

/-- **What a text decodes to is what is read of it.** -/
lemma Reader.Reads.decode_eq_ok_iff {r : Reader α} {P : α → Prop} (h : r.Reads cs P) :
    decode r cs = .ok a ↔ P a := by
  have hrun (last : List Char) (hlast : EndsNumber last) :
      r.run cs = .ok (a, last) ↔ last = [] ∧ P a := by
    have hall := h [] endsNumber_nil a last hlast
    rwa [List.append_nil] at hall
  rw [Json.decode_eq_ok_iff]
  constructor
  · rintro ⟨mid, hmid, hspace⟩
    exact ((hrun mid (endsNumber_of_skipSpace hspace)).1 hmid).2
  · exact fun ha => ⟨[], (hrun [] endsNumber_nil).2 ⟨rfl, ha⟩, rfl⟩

end GradedQuery.Json
