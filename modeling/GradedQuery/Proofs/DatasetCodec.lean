import GradedQuery.Dataset
import Mathlib.Data.List.Forall2
import Mathlib.Tactic.Lemma

/-!
# Codecs of datasets

A dataset is written with one encoder and read with one decoder.  What is said of both together
holds of every codec that keeps to four laws (`Codec.Lawful`):

* every object has a text;
* the text is a single line;
* it stands between braces, so that nothing of it is trimmed;
* it decodes to the names of the object and of its atoms, and to **what the texts of its scores are
  read as, one by one**.  It does not decode if one of these texts is not readable.

The laws do not say which number is read from the text of a number, or whether there is one.  That
is left to the statements, which name what they need of it.
-/

namespace GradedQuery

variable {ε α β : Type}

/-- Partners for all elements of a list make up a list of partners. -/
lemma exists_forall₂_iff {R : α → β → Prop} {l : List α} :
    (∃ l', List.Forall₂ R l l') ↔ ∀ a ∈ l, ∃ b, R a b := by
  induction l with
  | nil => simp
  | cons a l ih =>
      rw [List.forall_mem_cons, ← ih]
      constructor
      · rintro ⟨_, h⟩
        cases h with
        | cons ha hl => exact ⟨⟨_, ha⟩, _, hl⟩
      · rintro ⟨⟨b, ha⟩, l', hl⟩
        exact ⟨b :: l', .cons ha hl⟩

namespace Dataset

/-- How objects are written and read, and how the numbers in them are. -/
structure Codec (ε : Type) where
  encode : ScoredObject Float → Except ε String
  decode : String → Except ε (ScoredObject Float)
  writeNumber : Float → String
  readNumber : String → Except ε Float

namespace Codec

/-- Whether an entry has the atom of another one, and the number that its text is read as. -/
def ReadAs (c : Codec ε) (e e' : String × Float) : Prop :=
  e'.1 = e.1 ∧ c.readNumber (c.writeNumber e.2) = .ok e'.2

/-- Whether an object is what another one is read as, score by score. -/
def ObjectReadAs (c : Codec ε) (object object' : ScoredObject Float) : Prop :=
  object'.name = object.name ∧
    List.Forall₂ c.ReadAs object.scores.toList object'.scores.toList

variable {c : Codec ε} {object : ScoredObject Float} {scores : Scores Float}

lemma map_fst_of_readAs {l l' : List (String × Float)} (h : List.Forall₂ c.ReadAs l l') :
    l'.map Prod.fst = l.map Prod.fst := by
  induction h with
  | nil => rfl
  | cons he _ ih => rw [List.map_cons, List.map_cons, he.1, ih]

/-- What scores are read as are scores again, in the same order of atoms. -/
lemma exists_toList_of_readAs {l : List (String × Float)}
    (h : List.Forall₂ c.ReadAs scores.toList l) :
    ∃ scores' : Scores Float, scores'.toList = l := by
  have hatoms : (scores.toList.map Prod.fst).Pairwise (compare · · = .lt) :=
    List.pairwise_map.2 scores.ascending
  rw [← map_fst_of_readAs h] at hatoms
  exact ⟨⟨l, List.pairwise_map.1 hatoms⟩, rfl⟩

/-- **An object is readable exactly if each of its scores is.** -/
lemma exists_objectReadAs_iff :
    (∃ object', c.ObjectReadAs object object') ↔
      ∀ e ∈ object.scores.toList, ∃ y, c.readNumber (c.writeNumber e.2) = .ok y := by
  have hscore (e : String × Float) :
      (∃ e', c.ReadAs e e') ↔ ∃ y, c.readNumber (c.writeNumber e.2) = .ok y :=
    ⟨fun ⟨e', _, hy⟩ => ⟨e'.2, hy⟩, fun ⟨y, hy⟩ => ⟨(e.1, y), rfl, hy⟩⟩
  simp only [← hscore]
  rw [← exists_forall₂_iff]
  constructor
  · exact fun ⟨object', _, hscores⟩ => ⟨_, hscores⟩
  · rintro ⟨l, hl⟩
    obtain ⟨scores', rfl⟩ := exists_toList_of_readAs hl
    exact ⟨⟨object.name, scores'⟩, rfl, hl⟩

/-- The laws of a codec. -/
structure Lawful (c : Codec ε) : Prop where
  encodes : ∀ object, ∃ text, c.encode object = .ok text
  oneLine : ∀ {object text}, c.encode object = .ok text → '\n' ∉ text.toList
  braced : ∀ {object text}, c.encode object = .ok text →
    ∃ body, text.toList = '\x7b' :: (body ++ ['\x7d'])
  scoreByScore : ∀ {object text}, c.encode object = .ok text →
    ∀ object', c.decode text = .ok object' ↔ c.ObjectReadAs object object'

end Codec

end Dataset

end GradedQuery
