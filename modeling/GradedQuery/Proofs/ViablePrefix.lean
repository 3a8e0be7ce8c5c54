import GradedQuery.Proofs.Reading
import Mathlib

/-!
# Errors stand where no sentence goes on

A refusal names the first token that cannot be right.  **What stands before it is the beginning of
a sentence, and with it there is no sentence that begins so** (`first_not_viable_of_misplaced`).
The limits on nesting do not count here, and a refusal for them is left out.

`Follows L r tokens` is what each reader of a part keeps, where `L` are the sentences of that part.
It says two things about the tokens that the reader has taken when it stops or refuses:

* they are a sentence, or the beginning of one;
* what stands behind the next token has no influence on the outcome.

The first gives the beginning of a sentence.  Readers in sequence keep it because each part has
some sentence (`Follows.possible`): whatever has been begun can be ended.  The second is why the
token is to blame.  In front of any other rest the refusal is the same, and a sentence is refused
for its nesting only (`formula_of_derives`).
-/

namespace GradedQuery.Parser

variable {α β : Type} {L L' : α → List Lexeme → Prop} {r r' : Reader α} {a : α} {c : Connective}
  {f : Formula} {n levels : Nat} {t : Token} {rest tokens : List Token} {e : Refusal}

/-- Whether a reader keeps to the sentences `L` of what it reads, up to where it stops or refuses,
and looks at one token more at most. -/
structure Follows (L : α → List Lexeme → Prop) (r : Reader α) (tokens : List Token) : Prop where
  possible : ∃ a ls, L a ls
  of_ok : ∀ a rest, r tokens = .ok (a, rest) →
    ∃ front, tokens = front ++ rest ∧ L a (front.map Token.lexeme) ∧
      ∀ rest', rest'.head? = rest.head? → r (front ++ rest') = .ok (a, rest')
  of_error : ∀ e, r tokens = .error e → e.expected ≠ .shallowerNesting →
    ∃ front rest, tokens = front ++ rest ∧ rest.head? = e.token ∧
      (∃ a ls, L a (front.map Token.lexeme ++ ls)) ∧
      ∀ rest', rest'.head? = e.token → r (front ++ rest') = .error e

/-- A reader and then one that depends on what was read. -/
def andThen (r : Reader α) (next : α → Reader β) : Reader β := fun tokens =>
  r tokens >>= fun p => next p.1 p.2

/-- The sentences of two parts in sequence. -/
def Then (L : α → List Lexeme → Prop) (M : α → β → List Lexeme → Prop) (b : β)
    (xs : List Lexeme) : Prop :=
  ∃ a ls ms, xs = ls ++ ms ∧ L a ls ∧ M a b ms

namespace Follows

lemma mono (h : Follows L r tokens) (hL : ∀ a ls, L a ls → L' a ls) : Follows L' r tokens where
  possible := by
    obtain ⟨a, ls, hls⟩ := h.possible
    exact ⟨a, ls, hL a ls hls⟩
  of_ok := by
    intro a rest hok
    obtain ⟨front, heq, hfront, hlocal⟩ := h.of_ok a rest hok
    exact ⟨front, heq, hL a _ hfront, hlocal⟩
  of_error := by
    intro e herror he
    obtain ⟨front, rest, heq, hhead, ⟨a, ls, hls⟩, hlocal⟩ := h.of_error e herror he
    exact ⟨front, rest, heq, hhead, ⟨a, _, hL a _ hls⟩, hlocal⟩

/-- A reader that stops at the next token. -/
lemma stop (a : α) (hL : L a []) (h : ∀ x, x.head? = tokens.head? → r x = .ok (a, x)) :
    Follows L r tokens where
  possible := ⟨a, [], hL⟩
  of_ok := by
    intro b rest hok
    rw [h tokens rfl] at hok
    cases hok
    exact ⟨[], rfl, hL, h⟩
  of_error := by
    intro e herror
    rw [h tokens rfl] at herror
    cases herror

/-- A reader that refuses the next token. -/
lemma refuse (expected : Expectation) (hL : ∃ a ls, L a ls)
    (h : ∀ x, x.head? = tokens.head? → r x = .error ⟨expected, tokens.head?⟩) :
    Follows L r tokens where
  possible := hL
  of_ok := by
    intro a rest hok
    rw [h tokens rfl] at hok
    cases hok
  of_error := by
    intro e herror _
    rw [h tokens rfl] at herror
    cases herror
    exact ⟨[], tokens, rfl, rfl, hL, h⟩

/-- A reader that takes nothing. -/
lemma pure (a : α) (tokens : List Token) :
    Follows (fun b ls => b = a ∧ ls = []) (fun x => .ok (a, x)) tokens :=
  stop a ⟨rfl, rfl⟩ fun _ _ => rfl

lemma tooDeep {found : Option Token} (hL : ∃ a ls, L a ls)
    (h : r tokens = .error ⟨.shallowerNesting, found⟩) : Follows L r tokens where
  possible := hL
  of_ok := by
    intro a rest hok
    rw [h] at hok
    cases hok
  of_error := by
    intro e herror he
    rw [h] at herror
    cases herror
    exact absurd rfl he

/-- A reader that takes the next token and goes on like another one. -/
lemma cons (h : ∀ x, x.head? = rest.head? → r (t :: x) = r' x)
    (hL : ∀ a ls, L a ls → L' a (t.lexeme :: ls)) (hr : Follows L r' rest) :
    Follows L' r (t :: rest) where
  possible := by
    obtain ⟨a, ls, hls⟩ := hr.possible
    exact ⟨a, _, hL a ls hls⟩
  of_ok := by
    intro a last hok
    rw [h rest rfl] at hok
    obtain ⟨front, rfl, hfront, hlocal⟩ := hr.of_ok a last hok
    refine ⟨t :: front, rfl, hL a _ hfront, fun last' hlast' => ?_⟩
    rw [List.cons_append, h _ (by simp [List.head?_append, hlast'])]
    exact hlocal last' hlast'
  of_error := by
    intro e herror he
    rw [h rest rfl] at herror
    obtain ⟨front, last, rfl, hhead, ⟨a, ls, hls⟩, hlocal⟩ := hr.of_error e herror he
    refine ⟨t :: front, last, rfl, hhead, ⟨a, ls, hL a _ hls⟩, fun last' hlast' => ?_⟩
    rw [List.cons_append, h _ (by simp [List.head?_append, hlast', hhead])]
    exact hlocal last' hlast'

/-- Readers in sequence keep to the sentences in sequence. -/
lemma andThen {next : α → Reader β} {M : α → β → List Lexeme → Prop} (hr : Follows L r tokens)
    (hnext : ∀ a rest, Follows (M a) (next a) rest) :
    Follows (Then L M) (andThen r next) tokens where
  possible := by
    obtain ⟨a, ls, hls⟩ := hr.possible
    obtain ⟨b, ms, hms⟩ := (hnext a []).possible
    exact ⟨b, _, a, ls, ms, rfl, hls, hms⟩
  of_ok := by
    intro b rest hok
    obtain ⟨⟨a, mid⟩, hfirst, hsecond⟩ := bind_eq_ok_iff.1 hok
    obtain ⟨front, rfl, hfront, hlocal⟩ := hr.of_ok a mid hfirst
    obtain ⟨back, rfl, hback, hlocal'⟩ := (hnext a mid).of_ok b rest hsecond
    refine ⟨front ++ back, by simp, ⟨a, _, _, List.map_append, hfront, hback⟩,
      fun rest' hrest' => ?_⟩
    -- the first reader may look at the token behind what it takes, which is the first one of
    -- `back` or, if there is none, of the rest
    rw [List.append_assoc, Parser.andThen, hlocal _ (by simp [List.head?_append, hrest'])]
    exact hlocal' rest' hrest'
  of_error := by
    intro e herror he
    cases hfirst : r tokens with
    | error e' =>
        rw [Parser.andThen, hfirst] at herror
        cases herror
        obtain ⟨front, rest, rfl, hhead, ⟨a, ls, hls⟩, hlocal⟩ := hr.of_error e hfirst he
        obtain ⟨b, ms, hms⟩ := (hnext a []).possible
        refine ⟨front, rest, rfl, hhead, ⟨b, ls ++ ms, a, _, ms, by simp, hls, hms⟩,
          fun rest' hrest' => ?_⟩
        rw [Parser.andThen, hlocal rest' hrest']
        rfl
    | ok p =>
        obtain ⟨a, mid⟩ := p
        rw [Parser.andThen, hfirst] at herror
        obtain ⟨front, rfl, hfront, hlocal⟩ := hr.of_ok a mid hfirst
        obtain ⟨back, rest, rfl, hhead, ⟨b, ms, hms⟩, hlocal'⟩ :=
          (hnext a mid).of_error e herror he
        refine ⟨front ++ back, rest, by simp, hhead, ⟨b, ms, a, _, _, ?_, hfront, hms⟩,
          fun rest' hrest' => ?_⟩
        · rw [List.map_append, List.append_assoc]
        · rw [List.append_assoc, Parser.andThen,
            hlocal _ (by simp [List.head?_append, hrest', hhead])]
          exact hlocal' rest' hrest'

end Follows

/-! ## Readers of tokens -/

lemma follows_lexeme (l : Lexeme) (tokens : List Token) :
    Follows (fun _ ls => ls = [l]) (lexeme l) tokens := by
  cases tokens with
  | nil =>
      refine .refuse (.lexeme l) ⟨(), [l], rfl⟩ fun x hx => ?_
      rw [List.head?_eq_none_iff.1 hx]
      rfl
  | cons t rest =>
      by_cases ht : t.lexeme = l
      · refine .cons (L := fun _ ls => ls = []) (fun x _ => lexeme_cons ht x) ?_
          (.stop () rfl fun _ _ => rfl)
        rintro _ ls rfl
        rw [ht]
      · refine .refuse (.lexeme l) ⟨(), [l], rfl⟩ fun x hx => ?_
        obtain ⟨x, rfl⟩ := List.head?_eq_some_iff.1 hx
        exact if_neg ht

lemma follows_name (tokens : List Token) :
    Follows (fun w ls => ls = [.name w]) name tokens := by
  cases tokens with
  | nil =>
      refine .refuse .name ⟨"", [.name ""], rfl⟩ fun x hx => ?_
      rw [List.head?_eq_none_iff.1 hx]
      rfl
  | cons t rest =>
      by_cases ht : ∃ w, t.lexeme = .name w
      · obtain ⟨w, ht⟩ := ht
        refine .cons (fun x _ => name_cons ht x) ?_ (.pure w rest)
        rintro v ls ⟨rfl, rfl⟩
        rw [ht]
      · refine .refuse .name ⟨"", [.name ""], rfl⟩ fun x hx => ?_
        obtain ⟨x, rfl⟩ := List.head?_eq_some_iff.1 hx
        obtain ⟨l, offset⟩ := t
        cases l with
        | name w => exact absurd ⟨w, rfl⟩ ht
        | _ => rfl

lemma follows_ifNotTooHigh (t : Token) (f : Formula) (tokens : List Token) :
    Follows (fun g ls => g = f ∧ ls = []) (ifNotTooHigh t f) tokens := by
  by_cases hf : f.height ≤ maxNesting
  · exact .stop f ⟨rfl, rfl⟩ fun x _ => if_pos hf
  · exact .tooDeep ⟨f, [], rfl, rfl⟩ (if_neg hf)

/-! ## Chains -/

/-- The sentences of a category, however deeply nested. -/
def Sentence (k : Category) (f : Formula) (ls : List Lexeme) : Prop := ∃ n, Derives k ls f n

/-- What makes a chain with the tree `left` one with the tree `f`. -/
def Continuation (c : Connective) (left f : Formula) (ls : List Lexeme) : Prop :=
  ∀ front, Sentence (.chain c) left front → Sentence (.chain c) f (front ++ ls)

lemma continuation_nil (c : Connective) (left : Formula) : Continuation c left left [] := by
  intro front h
  rwa [List.append_nil]

/-- The loop of a chain.  Each step makes the tree higher, and the induction is on what the limit
leaves. -/
lemma follows_chain {op : Reader Formula} (hop : ∀ x, Follows (Sentence c.part) op x)
    (left : Formula) (tokens : List Token) :
    Follows (Continuation c left) (chain c op left) tokens := by
  induction hlevels : maxNesting - left.height using Nat.strong_induction_on
    generalizing left tokens with
  | _ levels ih =>
      subst hlevels
      cases tokens with
      | nil =>
          refine .stop left (continuation_nil c left) fun x hx => ?_
          rw [List.head?_eq_none_iff.1 hx, chain]
      | cons t rest =>
          by_cases ht : t.lexeme = mark c
          · have hnext : ∀ right rest, Follows (Continuation c (c.join left right))
                (fun x => if (c.join left right).height ≤ maxNesting
                  then chain c op (c.join left right) x
                  else .error ⟨.shallowerNesting, some t⟩) rest := by
              intro right rest
              have hheight := Connective.height_join c left right
              by_cases hhigh : (c.join left right).height ≤ maxNesting
              · simp only [if_pos hhigh]
                exact ih _ (by omega) _ rest rfl
              · exact .tooDeep ⟨_, [], continuation_nil c _⟩ (if_neg hhigh)
            refine .cons (fun x _ => ?_) ?_ ((hop rest).andThen hnext)
            · rw [chain, if_pos ht, andThen]
              cases op x <;> rfl
            · rintro f _ ⟨right, ls, ms, rfl, ⟨m, hright⟩, hms⟩ front ⟨n, hfront⟩
              rw [ht, ← List.cons_append, ← List.append_assoc]
              exact hms _ ⟨_, hfront.join hright⟩
          · refine .stop left (continuation_nil c left) fun x hx => ?_
            obtain ⟨x, rfl⟩ := List.head?_eq_some_iff.1 hx
            rw [chain, if_neg ht]

lemma follows_reader_chain (hpart : ∀ x, Follows (Sentence c.part) (reader levels c.part) x)
    (tokens : List Token) :
    Follows (Sentence (.chain c)) (reader levels (.chain c)) tokens := by
  have h := (hpart tokens).andThen fun left rest => follows_chain hpart left rest
  have hreader : reader levels (.chain c) = andThen (reader levels c.part) fun left =>
      chain c (reader levels c.part) left := funext fun x => reader_chain levels c x
  rw [hreader]
  refine h.mono ?_
  rintro f _ ⟨left, ls, ms, rfl, ⟨n, hleft⟩, hms⟩
  exact hms ls ⟨n, .single hleft⟩

lemma follows_disjunction (hop : ∀ x, Follows (Sentence .operand) (operand levels) x)
    (tokens : List Token) :
    Follows (Sentence (.chain .or)) (disjunction (operand levels)) tokens :=
  follows_reader_chain (c := .or) (follows_reader_chain (c := .and) hop) tokens

/-! ## Operands -/

lemma follows_arguments (hop : ∀ x, Follows (Sentence .operand) (operand levels) x)
    (ht : t.lexeme = .name c.callName) (tokens : List Token) :
    Follows (fun f ls => Sentence .operand f (t.lexeme :: ls))
      (arguments c t (operand levels)) tokens := by
  have hside := follows_disjunction hop
  have h : Follows _ (arguments c t (operand levels)) tokens :=
    (follows_lexeme .opening tokens).andThen fun _ x =>
      (follows_name x).andThen fun θ₁ x =>
        (follows_lexeme .comma x).andThen fun _ x =>
          (follows_name x).andThen fun θ₂ x =>
            (follows_lexeme .comma x).andThen fun _ x =>
              (hside x).andThen fun left x =>
                (follows_lexeme .comma x).andThen fun _ x =>
                  (hside x).andThen fun right x =>
                    (follows_lexeme .closing x).andThen fun _ x =>
                      follows_ifNotTooHigh t (c.weigh θ₁ θ₂ left right) x
  refine h.mono ?_
  rintro f _ ⟨_, _, _, rfl, rfl, θ₁, _, _, rfl, rfl, _, _, _, rfl, rfl, θ₂, _, _, rfl, rfl,
    _, _, _, rfl, rfl, left, ls, _, rfl, ⟨n, hleft⟩, _, _, _, rfl, rfl, right, rs, _, rfl,
    ⟨m, hright⟩, _, _, _, rfl, rfl, rfl, rfl⟩
  rw [ht]
  exact ⟨_, Derives.call c θ₁ θ₂ hleft hright⟩

lemma possible_operand : ∃ f ls, Sentence .operand f ls := ⟨.atom "", _, 0, .name ""⟩

/-- **What a reader of operands takes is an operand or the beginning of one.**  The induction is on
the levels left, of which each part that is not a name uses up one. -/
lemma follows_operand (levels : Nat) (tokens : List Token) :
    Follows (Sentence .operand) (operand levels) tokens := by
  induction levels using Nat.strong_induction_on generalizing tokens with
  | _ levels ih =>
  cases tokens with
  | nil =>
      refine .refuse .operand possible_operand fun x hx => ?_
      rw [List.head?_eq_none_iff.1 hx, operand.eq_def]
      rfl
  | cons t rest =>
      cases hlex : t.lexeme with
      | name w =>
          by_cases hcall : ∃ c : Connective, c.callName = w ∧ next rest = some .opening
          · obtain ⟨c, rfl, hopening⟩ := hcall
            cases levels with
            | zero =>
                exact .tooDeep possible_operand (operand_zero (Or.inr (Or.inr ⟨hlex, hopening⟩)))
            | succ m =>
                refine .cons (fun x hx => operand_call hlex ?_) (fun _ _ h => h)
                  (follows_arguments (ih m (Nat.lt_succ_self m)) hlex rest)
                rw [next, hx]
                exact hopening
          · refine .cons (fun x hx => ?_) ?_ (.pure (.atom w) rest)
            · cases hw : Connective.ofCallName? w with
              | none => exact operand_of_ofCallName? hlex hw x
              | some c =>
                  refine operand_name hlex fun hopening => hcall ⟨c, eq_callName hw, ?_⟩
                  rwa [next, ← hx]
            · rintro f ls ⟨rfl, rfl⟩
              rw [hlex]
              exact ⟨0, .name w⟩
      | not =>
          cases levels with
          | zero => exact .tooDeep possible_operand (operand_zero (c := .and) (Or.inl hlex))
          | succ m =>
              refine .cons (fun x _ => operand_not hlex x) ?_
                ((ih m (Nat.lt_succ_self m) rest).andThen fun f x =>
                  follows_ifNotTooHigh t (.not f) x)
              rintro f _ ⟨g, ls, _, rfl, ⟨n, hg⟩, rfl, rfl⟩
              rw [hlex, List.append_nil]
              exact ⟨_, .not hg⟩
      | opening =>
          cases levels with
          | zero =>
              exact .tooDeep possible_operand (operand_zero (c := .and) (Or.inr (Or.inl hlex)))
          | succ m =>
              refine .cons (fun x _ => operand_group hlex x) ?_
                ((follows_disjunction (ih m (Nat.lt_succ_self m)) rest).andThen fun f x =>
                  (follows_lexeme .closing x).andThen fun _ x => .pure f x)
              rintro f _ ⟨g, ls, _, rfl, ⟨n, hg⟩, _, _, _, rfl, rfl, rfl, rfl⟩
              rw [hlex]
              exact ⟨_, .group hg⟩
      | _ =>
          refine .refuse .operand possible_operand fun x hx => ?_
          obtain ⟨x, rfl⟩ := List.head?_eq_some_iff.1 hx
          rw [operand.eq_def]
          simp only [hlex]
          rfl

/-! ## Formulas -/

lemma formula_eq_error (h : formula tokens = .error e) (he : e.expected ≠ .shallowerNesting) :
    ∃ front rest, tokens = front ++ rest ∧ rest.head? = e.token ∧
      (∃ f ls, Sentence (.chain .or) f (front.map Token.lexeme ++ ls)) ∧
      ∀ rest', rest'.head? = e.token → formula (front ++ rest') = .error e := by
  have hfollows := follows_disjunction (follows_operand maxNesting) tokens
  rw [formula] at h
  cases hread : disjunction (operand maxNesting) tokens with
  | error e' =>
      rw [hread] at h
      cases h
      obtain ⟨front, rest, heq, hhead, hpossible, hlocal⟩ := hfollows.of_error e hread he
      refine ⟨front, rest, heq, hhead, hpossible, fun rest' hrest' => ?_⟩
      rw [formula, hlocal rest' hrest']
      rfl
  | ok p =>
      obtain ⟨f, rest⟩ := p
      obtain ⟨front, heq, hfront, hlocal⟩ := hfollows.of_ok f rest hread
      rw [hread] at h
      cases rest with
      | nil => cases h
      | cons t rest =>
          cases h
          refine ⟨front, t :: rest, heq, rfl, ⟨f, [], by rwa [List.append_nil]⟩,
            fun rest' hrest' => ?_⟩
          obtain ⟨tail, rfl⟩ := List.head?_eq_some_iff.1 hrest'
          rw [formula, hlocal (t :: tail) rfl]
          rfl

/-- **A sentence is refused for its nesting only.** -/
lemma not_sentence_of_formula (h : formula tokens = .error e)
    (he : e.expected ≠ .shallowerNesting) (f : Formula) :
    ¬ Sentence (.chain .or) f (tokens.map Token.lexeme) := by
  rintro ⟨n, hsentence⟩
  rcases formula_of_derives hsentence with ⟨-, hx⟩ | ⟨-, t, hx⟩
  · rw [h] at hx
    cases hx
  · rw [h] at hx
    cases hx
    exact he rfl

end GradedQuery.Parser

namespace GradedQuery

variable {text : String} {expected : Expectation} {found : Option Lexeme} {offset : Nat}

/-! ## Names that a text can have

A reader takes any token that says it is a name.  The end that is found for what was read may so
have names in it that no text has, and they are replaced.
-/

/-- A lexeme, with another name in the place of one that no text has. -/
def respell : Lexeme → Lexeme
  | .name w => .name (if isName w.toList = true then w else "a")
  | l => l

lemma respell_mark (c : Connective) : respell (Parser.mark c) = Parser.mark c := by
  cases c <;> rfl

lemma respell_name {w : String} (hw : isName w.toList = true) :
    respell (.name w) = .name w := by
  rw [respell, if_pos hw]

lemma respell_callName (c : Connective) : respell (.name c.callName) = .name c.callName :=
  respell_name (by cases c <;> decide)

lemma isName_of_respell {l : Lexeme} {w : String} (h : respell l = .name w) :
    isName w.toList = true := by
  cases l with
  | name v =>
      cases h
      split
      · assumption
      · decide
  | _ => cases h

lemma respell_of_tokenize {text : String} {tokens : Tokens} {t : Token}
    (h : tokenize text = .ok tokens) (ht : t ∈ tokens.list) : respell t.lexeme = t.lexeme := by
  obtain ⟨l, offset⟩ := t
  cases l with
  | name w =>
      exact respell_name ((tokenize_eq_ok_iff.1 h).1.isName (List.mem_map_of_mem ht))
  | _ => rfl

/-- A sentence stays one when its names are replaced, as only the names of calls matter. -/
lemma Derives.respell {k : Category} {ls : List Lexeme} {f : Formula} {n : Nat}
    (h : Derives k ls f n) : ∃ g, Derives k (ls.map respell) g n := by
  induction h with
  | name w => exact ⟨_, .name _⟩
  | not _ ih =>
      obtain ⟨g, hg⟩ := ih
      exact ⟨_, .not hg⟩
  | group _ ih =>
      obtain ⟨g, hg⟩ := ih
      rw [List.map_cons, List.map_append]
      exact ⟨_, .group hg⟩
  | call c θ₁ θ₂ _ _ ihl ihr =>
      obtain ⟨l, hl⟩ := ihl
      obtain ⟨r, hr⟩ := ihr
      rw [callLexemes, List.map_cons, respell_callName]
      simp only [List.map_cons, List.map_append, List.map_nil]
      exact ⟨_, .call c _ _ hl hr⟩
  | single _ ih =>
      obtain ⟨g, hg⟩ := ih
      exact ⟨_, .single hg⟩
  | @join c _ _ _ _ _ _ _ _ ihl ihr =>
      obtain ⟨l, hl⟩ := ihl
      obtain ⟨r, hr⟩ := ihr
      rw [List.map_append, List.map_cons, respell_mark]
      exact ⟨_, .join hl hr⟩

/-! ## Sentences with their ends -/

/-- Whether this is a sentence with its end, which is written `none`. -/
def IsComplete (s : List (Option Lexeme)) : Prop :=
  ∃ ls f n, s = ls.map some ++ [none] ∧ Derives (.chain .or) ls f n

/-- The end stands nowhere but at the end. -/
lemma of_append_eq_concat_none {α : Type} {xs ls : List α} {s : List (Option α)}
    (h : xs.map some ++ s = ls.map some ++ [none]) :
    ∃ zs, ls = xs ++ zs ∧ s = zs.map some ++ [none] := by
  induction xs generalizing ls with
  | nil => exact ⟨ls, rfl, h⟩
  | cons x xs ih =>
      cases ls with
      | nil => simp at h
      | cons l ls =>
          rw [List.map_cons, List.map_cons, List.cons_append, List.cons_append,
            List.cons.injEq, Option.some.injEq] at h
          obtain ⟨rfl, h⟩ := h
          obtain ⟨zs, rfl, hs⟩ := ih h
          exact ⟨zs, rfl, hs⟩

/-- Lexemes that begin like the rest of a text can stand in its place. -/
lemma exists_tokens_of_next {rest : List Token} {zs : List Lexeme} {s : List (Option Lexeme)}
    (h : Parser.next rest :: s = zs.map some ++ [none]) :
    ∃ rest' : List Token, rest'.head? = rest.head? ∧ rest'.map Token.lexeme = zs := by
  cases rest with
  | nil =>
      cases zs with
      | nil => exact ⟨[], rfl, rfl⟩
      | cons z zs => cases h
  | cons t rest =>
      cases zs with
      | nil => cases h
      | cons z zs =>
          cases h
          -- only the first token has to be the same one, the bytes of the others do not matter
          refine ⟨t :: zs.map fun l => ⟨l, 0⟩, rfl, ?_⟩
          simp [Function.comp_def]

/-- **An error points at the first token that cannot be right**: what stands before it is the
beginning of a sentence, and with it there is no sentence that begins so. -/
theorem first_not_viable_of_misplaced
    (h : parse text = .error (.misplaced expected found offset))
    (hexpected : expected ≠ .shallowerNesting) :
    ∃ before rest, tokenize text = .ok ⟨before ++ rest, text.utf8ByteSize⟩ ∧
      found = rest.head?.map Token.lexeme ∧
      offset = (rest.head?.map Token.offset).getD text.utf8ByteSize ∧
      (∃ s, s ≠ [] ∧ IsComplete (before.map (some ∘ Token.lexeme) ++ s) ∧
        ∀ w, some (.name w) ∈ s → isName w.toList = true) ∧
      ∀ s, ¬ IsComplete (before.map (some ∘ Token.lexeme) ++ found :: s) := by
  obtain ⟨⟨tokens, stop⟩, token, htokens, hx, rfl, rfl⟩ := of_parse_eq_misplaced h
  obtain rfl : stop = text.utf8ByteSize := (tokenize_eq_ok_iff.1 htokens).2
  obtain ⟨before, rest, rfl, rfl, ⟨f, ls, n, hls⟩, hlocal⟩ := Parser.formula_eq_error hx hexpected
  refine ⟨before, rest, htokens, rfl, rfl,
    ⟨(ls.map respell).map some ++ [none], by simp, ?_, fun w hw => ?_⟩, ?_⟩
  · -- what was read has names of the text, so only the end of the sentence is changed
    have hbefore : (before.map Token.lexeme).map respell = before.map Token.lexeme := by
      rw [List.map_map]
      exact List.map_congr_left fun t ht =>
        respell_of_tokenize htokens (List.mem_append_left rest ht)
    obtain ⟨g, hg⟩ := Derives.respell hls
    rw [List.map_append, hbefore] at hg
    exact ⟨_, g, n, by simp, hg⟩
  · obtain ⟨l, -, hl⟩ : ∃ l ∈ ls, respell l = .name w := by simpa using hw
    exact isName_of_respell hl
  · rintro s ⟨ls, f, n, heq, hderives⟩
    rw [← List.map_map] at heq
    obtain ⟨zs, rfl, hs⟩ := of_append_eq_concat_none heq
    obtain ⟨rest', hhead, rfl⟩ := exists_tokens_of_next hs
    rw [← List.map_append] at hderives
    exact Parser.not_sentence_of_formula (hlocal rest' hhead) hexpected f ⟨n, hderives⟩

/-- A call that ends after its third argument. -/
theorem first_not_viable_of_misplaced_call :
    parse "WOR(t,u,p)" = .error (.misplaced (.lexeme .comma) (some .closing) 9) ∧
      Expectation.lexeme .comma ≠ .shallowerNesting ∧
      ∃ before rest, tokenize "WOR(t,u,p)" = .ok ⟨before ++ rest, "WOR(t,u,p)".utf8ByteSize⟩ ∧
        some Lexeme.closing = rest.head?.map Token.lexeme ∧
        9 = (rest.head?.map Token.offset).getD "WOR(t,u,p)".utf8ByteSize ∧
        (∃ s, s ≠ [] ∧ IsComplete (before.map (some ∘ Token.lexeme) ++ s) ∧
          ∀ w, some (.name w) ∈ s → isName w.toList = true) ∧
        ∀ s, ¬ IsComplete (before.map (some ∘ Token.lexeme) ++ some .closing :: s) := by
  have hparse : parse "WOR(t,u,p)" = .error (.misplaced (.lexeme .comma) (some .closing) 9) := by
    cbv
  have hexpected : Expectation.lexeme .comma ≠ .shallowerNesting := by decide
  exact ⟨hparse, hexpected, first_not_viable_of_misplaced hparse hexpected⟩

end GradedQuery
