import GradedQuery.Formula.Parser
import Mathlib.Data.List.Chain
import Mathlib.Tactic.Lemma

/-!
# The grammar of formulas

`Derives k ls f n` says, without reference to the reader, that the lexemes `ls` form a sentence of
the category `k` with the tree `f`.  The categories are operands and the two kinds of chain.  A
chain grows on its right end, which is what makes the connectives associate to the left.

The number `n` is the greatest number of marks `!`, parentheses and weighted calls that are open
at once, so that limits on it can be stated beside the grammar and not as a part of it.

The rules let every name be an operand, `WAND` and `WOR` included.  There is no ambiguity in that:
in a sentence a name stands right before a parenthesis only if it is the name of a call
(`Derives.callName_of_opening`).
-/

namespace GradedQuery

/-- What a stretch of lexemes can be read as. -/
inductive Category where
  | operand
  | chain (c : Connective)

/-- What a connective joins: conjunction joins operands, disjunction joins conjunctions. -/
def Connective.part : Connective → Category
  | .and => .operand
  | .or => .chain .and

/-- The lexemes of a weighted call. -/
def callLexemes (c : Connective) (θ₁ θ₂ : String) (ls rs : List Lexeme) : List Lexeme :=
  .name c.callName :: .opening :: .name θ₁ :: .comma :: .name θ₂ :: .comma ::
    (ls ++ .comma :: (rs ++ [.closing]))

/-- The sentences of the grammar, with their trees and the depth to which they are nested. -/
inductive Derives : Category → List Lexeme → Formula → Nat → Prop where
  | name (w : String) : Derives .operand [.name w] (.atom w) 0
  | not {ls : List Lexeme} {f : Formula} {n : Nat} (h : Derives .operand ls f n) :
      Derives .operand (.not :: ls) (.not f) (n + 1)
  | group {ls : List Lexeme} {f : Formula} {n : Nat} (h : Derives (.chain .or) ls f n) :
      Derives .operand (.opening :: (ls ++ [.closing])) f (n + 1)
  | call {ls rs : List Lexeme} {l r : Formula} {n m : Nat} (c : Connective) (θ₁ θ₂ : String)
      (hl : Derives (.chain .or) ls l n) (hr : Derives (.chain .or) rs r m) :
      Derives .operand (callLexemes c θ₁ θ₂ ls rs) (c.weigh θ₁ θ₂ l r) (max n m + 1)
  | single {c : Connective} {ls : List Lexeme} {f : Formula} {n : Nat}
      (h : Derives c.part ls f n) : Derives (.chain c) ls f n
  | join {c : Connective} {ls rs : List Lexeme} {l r : Formula} {n m : Nat}
      (hl : Derives (.chain c) ls l n) (hr : Derives c.part rs r m) :
      Derives (.chain c) (ls ++ Parser.mark c :: rs) (c.join l r) (max n m)

/-! ## Names before parentheses -/

/-- Whether a lexeme may stand right before another one: a name stands before a parenthesis only
as the name of a weighted call. -/
def Lexeme.Precedes (a b : Lexeme) : Prop :=
  ∀ w, a = .name w → b = .opening → ∃ c : Connective, w = c.callName

section

variable {a b : Lexeme} {ls rs : List Lexeme}

lemma isChain_cons_of_ne_name (ha : ∀ w, a ≠ .name w) (h : ls.IsChain Lexeme.Precedes) :
    (a :: ls).IsChain Lexeme.Precedes :=
  h.cons fun _ _ w hw _ => absurd hw (ha w)

lemma isChain_cons_of_ne_opening (hb : b ≠ .opening) (h : (b :: ls).IsChain Lexeme.Precedes) :
    (a :: b :: ls).IsChain Lexeme.Precedes := by
  refine h.cons fun y hy w _ hopening => ?_
  cases hy
  exact absurd hopening hb

/-- What stands on both sides of a mark does not touch. -/
lemma isChain_append_cons (ha : ∀ w, a ≠ .name w) (ha' : a ≠ .opening)
    (hl : ls.IsChain Lexeme.Precedes) (hr : rs.IsChain Lexeme.Precedes) :
    (ls ++ a :: rs).IsChain Lexeme.Precedes := by
  refine hl.append (isChain_cons_of_ne_name ha hr) fun x _ y hy w _ hopening => ?_
  cases hy
  exact absurd hopening ha'

end

/-- **In a sentence a name stands right before a parenthesis only as the name of a call.** -/
lemma Derives.callName_of_opening {k : Category} {ls : List Lexeme} {f : Formula} {n : Nat}
    (h : Derives k ls f n) : ls.IsChain Lexeme.Precedes := by
  induction h with
  | name w => exact List.isChain_singleton _
  | not _ ih => exact isChain_cons_of_ne_name (by simp) ih
  | group _ ih =>
      exact isChain_cons_of_ne_name (by simp) (isChain_append_cons (by simp) (by simp) ih .nil)
  | call c θ₁ θ₂ _ _ ihl ihr =>
      have hright := isChain_append_cons (a := .closing) (by simp) (by simp) ihr .nil
      have hboth := isChain_append_cons (a := .comma) (by simp) (by simp) ihl hright
      have hsecond := isChain_cons_of_ne_opening (a := .name θ₂) (by simp)
        (isChain_cons_of_ne_name (a := .comma) (by simp) hboth)
      have hfirst := isChain_cons_of_ne_opening (a := .name θ₁) (by simp)
        (isChain_cons_of_ne_name (a := .comma) (by simp) hsecond)
      refine (isChain_cons_of_ne_name (a := .opening) (by simp) hfirst).cons fun y _ w hw _ => ?_
      cases hw
      exact ⟨c, rfl⟩
  | single _ ih => exact ih
  | @join c _ _ _ _ _ _ _ _ ihl ihr =>
      cases c with
      | and => exact isChain_append_cons (by simp [Parser.mark]) (by simp [Parser.mark]) ihl ihr
      | or => exact isChain_append_cons (by simp [Parser.mark]) (by simp [Parser.mark]) ihl ihr

end GradedQuery
