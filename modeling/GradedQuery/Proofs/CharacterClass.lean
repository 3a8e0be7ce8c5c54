import Mathlib.Data.List.Basic
import Mathlib.Tactic.Lemma

/-!
# Texts over a class of characters

A written value is put together from parts, and what matters about it is often only which characters
it consists of.  `Text.Over p s` says that all characters of a text belong to the class `p`; the
lemmas say that for the ways in which texts are put together.
-/

namespace GradedQuery.Text

/-- Whether all characters of a text belong to a class. -/
def Over (p : Char → Bool) (s : String) : Prop := ∀ c ∈ s.toList, p c = true

variable {p q : Char → Bool} {s t : String} {cs : List Char}

instance : Decidable (Over p s) := decidable_of_iff (s.toList.all p = true) List.all_eq_true

lemma Over.mono (h : Over p s) (hpq : ∀ c, p c = true → q c = true) : Over q s :=
  fun c hc => hpq c (h c hc)

lemma over_ofList (h : ∀ c ∈ cs, p c = true) : Over p (String.ofList cs) := by
  rwa [Over, String.toList_ofList]

lemma Over.append (hs : Over p s) (ht : Over p t) : Over p (s ++ t) := by
  rw [Over, String.toList_append, List.forall_mem_append]
  exact ⟨hs, ht⟩

lemma Over.intercalate {parts : List String} (hs : Over p s) (h : ∀ t ∈ parts, Over p t) :
    Over p (s.intercalate parts) := by
  induction parts with
  | nil =>
      rw [String.intercalate_nil]
      exact over_ofList fun c hc => absurd hc List.not_mem_nil
  | cons t parts ih =>
      obtain ⟨ht, hrest⟩ := List.forall_mem_cons.1 h
      cases parts with
      | nil => rwa [String.intercalate_singleton]
      | cons u parts =>
          rw [String.intercalate_cons_cons]
          exact (ht.append hs).append (ih hrest)

/-- A natural number is written in digits. -/
lemma over_toString (n : Nat) : Over Char.isDigit (toString n) := by
  show Over Char.isDigit (Nat.repr n)
  rw [Nat.repr_eq_ofList_toDigits]
  exact over_ofList fun c hc => Nat.isDigit_of_mem_toDigits (by decide) (by decide) hc

end GradedQuery.Text
