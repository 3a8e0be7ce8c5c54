import GradedQuery.Proofs.Grammar
import GradedQuery.Proofs.Layout

/-!
# The reader accepts the grammar within its limits

The readers of operands, conjunctions and disjunctions are put side by side with the categories of
the grammar (`Parser.reader`).  A chain is read in a loop, and a sentence may be followed by more of
its chain, so what holds of a sentence is said with what the loop does next (`Parser.resume`).

* **`answers_of_derives`** — a sentence within the limits is read, and the reader goes on behind
  it; one beyond the limits is refused, and for being nested too deeply.
* **`reads_of_operand_eq_ok`** — whatever is read is a sentence within the limits.

Together, **a text is parsed exactly if it is a sentence within the limits** (`IsSentence`).
-/

namespace GradedQuery.Parser

variable {k : Category} {c : Connective} {ls : List Lexeme} {f g : Formula} {n levels : Nat}
  {front rest tokens : List Token} {t : Token}

/-! ## Readers by category -/

/-- The reader of a category, where at most `levels` more levels may be opened. -/
def reader (levels : Nat) : Category → Reader Formula
  | .operand => operand levels
  | .chain .and => conjunction (operand levels)
  | .chain .or => disjunction (operand levels)

/-- What a reader does once it has read `f`: the reader of a chain goes on with the chain. -/
def resume (levels : Nat) : Category → Formula → Reader Formula
  | .operand, f => fun rest => .ok (f, rest)
  | .chain c, f => chain c (reader levels c.part) f

lemma reader_chain (levels : Nat) (c : Connective) (tokens : List Token) :
    reader levels (.chain c) tokens =
      (reader levels c.part tokens >>= fun p => chain c (reader levels c.part) p.1 p.2) := by
  cases c <;> rfl

/-! ## The end of a sentence -/

/-- The lexeme that comes next. -/
def next (rest : List Token) : Option Lexeme := rest.head?.map Token.lexeme

lemma next_cons {l : Lexeme} (ht : t.lexeme = l) (rest : List Token) :
    next (t :: rest) = some l := congrArg some ht

/-- Whether a sentence can end here: no parenthesis follows, which would turn a name into a call,
and no `&` follows a disjunction. -/
def Ends : Category → List Token → Prop
  | .operand, rest => next rest ≠ some .opening
  | .chain c, rest => next rest ≠ some .opening ∧ (c = .or → next rest ≠ some .and)

lemma chain_stop (h : next rest ≠ some (mark c)) (operand : Reader Formula) (left : Formula) :
    chain c operand left rest = .ok (left, rest) := by
  cases rest with
  | nil => rw [chain]
  | cons t rest =>
      have hmark : t.lexeme ≠ mark c := fun heq => h (next_cons heq rest)
      rw [chain, if_neg hmark]

lemma ends_part (h : Ends (.chain c) rest) : Ends c.part rest := by
  cases c with
  | and => exact h.1
  | or => exact ⟨h.1, fun hc => absurd hc (by decide)⟩

/-- Where a chain can end or go on, what it joins has ended. -/
lemma resume_part (h : Ends (.chain c) rest) (f : Formula) :
    resume levels c.part f rest = .ok (f, rest) := by
  cases c with
  | and => rfl
  | or => exact chain_stop (h.2 rfl) _ f

/-- A mark of a chain ends what the chain joins. -/
lemma ends_mark (ht : t.lexeme = mark c) (rest : List Token) : Ends (.chain c) (t :: rest) := by
  rw [Ends, next_cons ht]
  cases c with
  | and => exact ⟨by decide, fun hc => absurd hc (by decide)⟩
  | or => exact ⟨by decide, fun _ => by decide⟩

/-- A comma or a closing parenthesis ends a disjunction. -/
lemma ends_separator (ht : t.lexeme = .comma ∨ t.lexeme = .closing) (rest : List Token) :
    Ends (.chain .or) (t :: rest) := by
  rcases ht with ht | ht <;> rw [Ends, next_cons ht] <;> exact ⟨by decide, fun _ => by decide⟩

lemma resume_separator (levels : Nat) (ht : t.lexeme = .comma ∨ t.lexeme = .closing) (f : Formula)
    (rest : List Token) : resume levels (.chain .or) f (t :: rest) = .ok (f, t :: rest) := by
  refine chain_stop ?_ _ f
  rcases ht with ht | ht <;> rw [next_cons ht] <;> decide

lemma startsWithOpening_iff : startsWithOpening rest = true ↔ next rest = some .opening := by
  cases rest with
  | nil => simp [startsWithOpening, next]
  | cons t rest =>
      obtain ⟨l, offset⟩ := t
      cases l <;> simp [startsWithOpening, next]

/-! ## Steps of the readers -/

lemma lexeme_cons {l : Lexeme} (ht : t.lexeme = l) (rest : List Token) :
    lexeme l (t :: rest) = .ok ((), rest) := by
  simp only [lexeme, ht, if_true]

lemma name_cons {w : String} (ht : t.lexeme = .name w) (rest : List Token) :
    name (t :: rest) = .ok (w, rest) := by
  obtain ⟨l, offset⟩ := t
  cases ht
  rfl

lemma ofCallName?_callName (c : Connective) : Connective.ofCallName? c.callName = some c := by
  cases c <;> decide

lemma eq_callName {w : String} (h : Connective.ofCallName? w = some c) : c.callName = w := by
  have hfound := List.find?_some h
  simpa using hfound

lemma operand_name {w : String} (ht : t.lexeme = .name w) (h : next rest ≠ some .opening) :
    operand levels (t :: rest) = .ok (.atom w, rest) := by
  have hnot : startsWithOpening rest = false := by
    rw [← Bool.not_eq_true, startsWithOpening_iff]
    exact h
  rw [operand.eq_def]
  simp only [ht, hnot]
  cases Connective.ofCallName? w <;> rfl

lemma operand_of_ofCallName? {w : String} (ht : t.lexeme = .name w)
    (h : Connective.ofCallName? w = none) (rest : List Token) :
    operand levels (t :: rest) = .ok (.atom w, rest) := by
  rw [operand.eq_def]
  simp only [ht, h]

lemma operand_not (ht : t.lexeme = .not) (rest : List Token) :
    operand (levels + 1) (t :: rest) =
      (operand levels rest >>= fun p => ifNotTooHigh t (.not p.1) p.2) := by
  rw [operand.eq_def]
  simp only [ht]

lemma operand_group (ht : t.lexeme = .opening) (rest : List Token) :
    operand (levels + 1) (t :: rest) =
      (disjunction (operand levels) rest >>= fun p =>
        lexeme .closing p.2 >>= fun q => pure (p.1, q.2)) := by
  rw [operand.eq_def]
  simp only [ht]

lemma operand_call (ht : t.lexeme = .name c.callName) (h : next rest = some .opening) :
    operand (levels + 1) (t :: rest) = arguments c t (operand levels) rest := by
  rw [operand.eq_def]
  simp only [ht, ofCallName?_callName, startsWithOpening_iff.2 h]

/-- Without levels left, whatever would open one is refused. -/
lemma operand_zero (ht : t.lexeme = .not ∨ t.lexeme = .opening ∨
      t.lexeme = .name c.callName ∧ next rest = some .opening) :
    operand 0 (t :: rest) = .error ⟨.shallowerNesting, some t⟩ := by
  rw [operand.eq_def]
  rcases ht with ht | ht | ⟨ht, h⟩
  · simp only [ht]
  · simp only [ht]
  · simp only [ht, ofCallName?_callName, startsWithOpening_iff.2 h]

/-- The fixed part at the start of the arguments of a call. -/
lemma arguments_cons {o a₁ s₁ a₂ s₂ : Token} {θ₁ θ₂ : String} (ho : o.lexeme = .opening)
    (ha₁ : a₁.lexeme = .name θ₁) (hs₁ : s₁.lexeme = .comma) (ha₂ : a₂.lexeme = .name θ₂)
    (hs₂ : s₂.lexeme = .comma) (call : Token) (op : Reader Formula) (rest : List Token) :
    arguments c call op (o :: a₁ :: s₁ :: a₂ :: s₂ :: rest) =
      (disjunction op rest >>= fun p => lexeme .comma p.2 >>= fun q =>
        disjunction op q.2 >>= fun p' => lexeme .closing p'.2 >>= fun q' =>
          ifNotTooHigh call (c.weigh θ₁ θ₂ p.1 p'.1) q'.2) := by
  simp only [arguments, lexeme_cons ho, name_cons ha₁, lexeme_cons hs₁, name_cons ha₂,
    lexeme_cons hs₂, bind, Except.bind]

/-- The tokens of a weighted call. -/
lemma map_lexeme_call {θ₁ θ₂ : String} {rs : List Lexeme}
    (h : front.map Token.lexeme = callLexemes c θ₁ θ₂ ls rs) :
    ∃ t o a₁ s₁ a₂ s₂ left s right e,
      front = t :: o :: a₁ :: s₁ :: a₂ :: s₂ :: (left ++ s :: (right ++ [e])) ∧
        t.lexeme = .name c.callName ∧ o.lexeme = .opening ∧ a₁.lexeme = .name θ₁ ∧
        s₁.lexeme = .comma ∧ a₂.lexeme = .name θ₂ ∧ s₂.lexeme = .comma ∧
        left.map Token.lexeme = ls ∧ s.lexeme = .comma ∧ right.map Token.lexeme = rs ∧
        e.lexeme = .closing := by
  obtain ⟨t, _, rfl, ht, h⟩ := List.map_eq_cons_iff.1 h
  obtain ⟨o, _, rfl, ho, h⟩ := List.map_eq_cons_iff.1 h
  obtain ⟨a₁, _, rfl, ha₁, h⟩ := List.map_eq_cons_iff.1 h
  obtain ⟨s₁, _, rfl, hs₁, h⟩ := List.map_eq_cons_iff.1 h
  obtain ⟨a₂, _, rfl, ha₂, h⟩ := List.map_eq_cons_iff.1 h
  obtain ⟨s₂, _, rfl, hs₂, h⟩ := List.map_eq_cons_iff.1 h
  obtain ⟨left, _, rfl, hleft, h⟩ := List.map_eq_append_iff.1 h
  obtain ⟨s, _, rfl, hs, h⟩ := List.map_eq_cons_iff.1 h
  obtain ⟨right, _, rfl, hright, h⟩ := List.map_eq_append_iff.1 h
  obtain ⟨e, rfl, he⟩ := List.map_eq_singleton_iff.1 h
  exact ⟨t, o, a₁, s₁, a₂, s₂, left, s, right, e, rfl, ht, ho, ha₁, hs₁, ha₂, hs₂, hleft, hs,
    hright, he⟩

lemma chain_cons (ht : t.lexeme = mark c) {op : Reader Formula} {tail : List Token}
    (hop : op tail = .ok (g, rest)) :
    chain c op f (t :: tail) =
      if (c.join f g).height ≤ maxNesting then chain c op (c.join f g) rest
      else .error ⟨.shallowerNesting, some t⟩ := by
  rw [chain, if_pos ht]
  simp only [hop]

/-! ## Sentences are read -/

/-- Whether a tree and the nesting of its sentence keep to the limits. -/
def Within (levels : Nat) (f : Formula) (n : Nat) : Prop := f.height ≤ maxNesting ∧ n ≤ levels

lemma within_atom (levels : Nat) (w : String) : Within levels (.atom w) 0 := by
  refine ⟨?_, Nat.zero_le levels⟩
  rw [Formula.height]
  decide

/-- What becomes of a sentence: within the limits it is read, and the reader goes on behind it;
beyond them it is refused for being nested too deeply. -/
def Answers (levels : Nat) (k : Category) (f : Formula) (n : Nat) (rest : List Token)
    (outcome : Except Refusal (Formula × List Token)) : Prop :=
  (Within levels f n ∧ outcome = resume levels k f rest) ∨
    (¬ Within levels f n ∧ ∃ t, outcome = .error ⟨.shallowerNesting, some t⟩)

lemma answers_ifNotTooHigh (hn : n ≤ levels) (t : Token) (f : Formula) (rest : List Token) :
    Answers levels .operand f n rest (ifNotTooHigh t f rest) := by
  by_cases h : f.height ≤ maxNesting
  · exact Or.inl ⟨⟨h, hn⟩, if_pos h⟩
  · exact Or.inr ⟨fun hw => h hw.1, t, if_neg h⟩

/-- What is read first decides, if it is beyond the limits already. -/
lemma Answers.bind {levels' n' : Nat} {k' : Category} {f' : Formula} {rest' : List Token}
    {outcome : Except Refusal (Formula × List Token)}
    {following : Formula × List Token → Except Refusal (Formula × List Token)}
    (h : Answers levels k f n rest outcome)
    (hwithin : Within levels' f' n' → Within levels f n)
    (hends : resume levels k f rest = .ok (f, rest))
    (hnext : Within levels f n → Answers levels' k' f' n' rest' (following (f, rest))) :
    Answers levels' k' f' n' rest' (outcome >>= following) := by
  rcases h with ⟨hw, hx⟩ | ⟨hw, t, hx⟩
  · rw [hx, hends]
    exact hnext hw
  · rw [hx]
    exact Or.inr ⟨fun hw' => hw (hwithin hw'), t, rfl⟩

/-- One more operand of a chain is joined on, unless it or the tree is too high. -/
lemma answers_chain {tail : List Token} {m : Nat} (ht : t.lexeme = mark c)
    (hf : Within levels f n) (hg : Answers levels c.part g m rest (reader levels c.part tail))
    (hends : Ends (.chain c) rest) :
    Answers levels (.chain c) (c.join f g) (max n m) rest
      (chain c (reader levels c.part) f (t :: tail)) := by
  have hheight := Connective.height_join c f g
  rcases hg with ⟨hw, hx⟩ | ⟨hw, t', hx⟩
  · rw [resume_part hends] at hx
    rw [chain_cons ht hx]
    by_cases h : (c.join f g).height ≤ maxNesting
    · rw [if_pos h]
      exact Or.inl ⟨⟨h, Nat.max_le.2 ⟨hf.2, hw.2⟩⟩, rfl⟩
    · rw [if_neg h]
      exact Or.inr ⟨fun hw' => h hw'.1, t, rfl⟩
  · refine Or.inr ⟨fun hw' => hw ⟨?_, ?_⟩, t', ?_⟩
    · have := hw'.1
      omega
    · exact (Nat.max_le.1 hw'.2).2
    · rw [chain, if_pos ht]
      simp only [hx]

lemma answers_zero {tail : List Token} (ht : t.lexeme = .not ∨ t.lexeme = .opening ∨
      t.lexeme = .name c.callName ∧ next tail = some .opening) :
    Answers 0 .operand f (n + 1) rest (operand 0 (t :: tail)) :=
  Or.inr ⟨fun hw => absurd hw.2 (Nat.not_succ_le_zero n), t, operand_zero ht⟩

/-- A call is read if both sides are, unless its tree is too high. -/
lemma answers_call {l r : Formula} {m : Nat} {o a₁ s₁ a₂ s₂ s e : Token} {θ₁ θ₂ : String}
    {left right : List Token} (ht : t.lexeme = .name c.callName) (ho : o.lexeme = .opening)
    (ha₁ : a₁.lexeme = .name θ₁) (hs₁ : s₁.lexeme = .comma) (ha₂ : a₂.lexeme = .name θ₂)
    (hs₂ : s₂.lexeme = .comma) (hs : s.lexeme = .comma) (he : e.lexeme = .closing)
    (hl : ∀ {rest}, Ends (.chain .or) rest →
      Answers levels (.chain .or) l n rest (reader levels (.chain .or) (left ++ rest)))
    (hr : ∀ {rest}, Ends (.chain .or) rest →
      Answers levels (.chain .or) r m rest (reader levels (.chain .or) (right ++ rest))) :
    Answers (levels + 1) .operand (c.weigh θ₁ θ₂ l r) (max n m + 1) rest
      (operand (levels + 1)
        (t :: o :: a₁ :: s₁ :: a₂ :: s₂ :: (left ++ s :: (right ++ e :: rest)))) := by
  have hheight := Connective.height_weigh c θ₁ θ₂ l r
  rw [operand_call ht (next_cons ho _), arguments_cons ho ha₁ hs₁ ha₂ hs₂]
  refine (hl (ends_separator (Or.inl hs) _)).bind ?_ (resume_separator levels (Or.inl hs) l _)
    fun hwl => ?_
  · rintro ⟨hh, hn⟩
    exact ⟨by omega, by omega⟩
  rw [lexeme_cons hs]
  refine (hr (ends_separator (Or.inr he) _)).bind ?_ (resume_separator levels (Or.inr he) r _)
    fun hwr => ?_
  · rintro ⟨hh, hn⟩
    exact ⟨by omega, by omega⟩
  rw [lexeme_cons he]
  exact answers_ifNotTooHigh (Nat.succ_le_succ (Nat.max_le.2 ⟨hwl.2, hwr.2⟩)) t _ rest

/-- **Every sentence gets its answer.**  The induction is on the grammar; the rest of the text and
the levels left change from rule to rule. -/
lemma answers_of_derives (h : Derives k ls f n) (hls : front.map Token.lexeme = ls)
    (hends : Ends k rest) : Answers levels k f n rest (reader levels k (front ++ rest)) := by
  induction h generalizing levels front rest with
  | name w =>
      obtain ⟨t, rfl, ht⟩ := List.map_eq_singleton_iff.1 hls
      exact Or.inl ⟨within_atom levels w, operand_name ht hends⟩
  | @not ls f n h ih =>
      obtain ⟨t, tail, rfl, ht, htail⟩ := List.map_eq_cons_iff.1 hls
      cases levels with
      | zero => exact answers_zero (c := .and) (Or.inl ht)
      | succ levels =>
          show Answers _ _ _ _ _ (operand (levels + 1) (t :: (tail ++ rest)))
          rw [operand_not ht]
          refine (@ih levels _ _ htail hends).bind ?_ rfl fun hw => ?_
          · rintro ⟨hheight, hn⟩
            rw [Formula.height] at hheight
            exact ⟨by omega, by omega⟩
          · exact answers_ifNotTooHigh (Nat.succ_le_succ hw.2) t (.not f) rest
  | @group ls f n h ih =>
      obtain ⟨t, tail, rfl, ht, htail⟩ := List.map_eq_cons_iff.1 hls
      obtain ⟨inner, last, rfl, hinner, hlast⟩ := List.map_eq_append_iff.1 htail
      obtain ⟨e, rfl, he⟩ := List.map_eq_singleton_iff.1 hlast
      cases levels with
      | zero => exact answers_zero (c := .and) (Or.inr (Or.inl ht))
      | succ levels =>
          show Answers _ _ _ _ _ (operand (levels + 1) (t :: (inner ++ [e] ++ rest)))
          rw [operand_group ht, List.append_assoc]
          refine (@ih levels _ _ hinner (ends_separator (Or.inr he) rest)).bind ?_
            (resume_separator levels (Or.inr he) f rest) fun hw => ?_
          · rintro ⟨hheight, hn⟩
            exact ⟨hheight, by omega⟩
          · rw [lexeme_cons he]
            exact Or.inl ⟨⟨hw.1, Nat.succ_le_succ hw.2⟩, rfl⟩
  | @call ls rs l r n m c θ₁ θ₂ hl hr ihl ihr =>
      obtain ⟨t, o, a₁, s₁, a₂, s₂, left, s, right, e, rfl, ht, ho, ha₁, hs₁, ha₂, hs₂, hleft, hs,
        hright, he⟩ := map_lexeme_call hls
      cases levels with
      | zero => exact answers_zero (Or.inr (Or.inr ⟨ht, next_cons ho _⟩))
      | succ levels =>
          simp only [List.cons_append, List.append_assoc]
          exact answers_call ht ho ha₁ hs₁ ha₂ hs₂ hs he (ihl hleft) (ihr hright)
  | @single c ls f n h ih =>
      rw [reader_chain]
      refine (@ih levels _ _ hls (ends_part hends)).bind id (resume_part hends f) fun hw => ?_
      exact Or.inl ⟨hw, rfl⟩
  | @join c ls rs l r n m hl hr ihl ihr =>
      obtain ⟨left, tail, rfl, hleft, htail⟩ := List.map_eq_append_iff.1 hls
      obtain ⟨t, right, rfl, ht, hright⟩ := List.map_eq_cons_iff.1 htail
      rw [List.append_assoc, List.cons_append]
      have hrest := @ihr levels _ _ hright (ends_part hends)
      rcases @ihl levels _ _ hleft (ends_mark ht (right ++ rest)) with
        ⟨hw, hx⟩ | ⟨hw, t', hx⟩
      · rw [hx]
        exact answers_chain ht hw hrest hends
      · refine Or.inr ⟨fun hw' => hw ?_, t', hx⟩
        obtain ⟨hheight, hn⟩ := hw'
        rw [Connective.height_join] at hheight
        exact ⟨by omega, by omega⟩

/-! ## What is read is a sentence -/

lemma of_lexeme_eq_ok {l : Lexeme} {u : Unit} (h : lexeme l tokens = .ok (u, rest)) :
    ∃ t, tokens = t :: rest ∧ t.lexeme = l := by
  cases tokens with
  | nil => cases h
  | cons t tail =>
      by_cases ht : t.lexeme = l
      · rw [lexeme_cons ht] at h
        cases h
        exact ⟨t, rfl, ht⟩
      · simp only [lexeme, if_neg ht] at h
        cases h

lemma of_name_eq_ok {w : String} (h : name tokens = .ok (w, rest)) :
    ∃ t, tokens = t :: rest ∧ t.lexeme = .name w := by
  cases tokens with
  | nil => cases h
  | cons t tail =>
      obtain ⟨l, offset⟩ := t
      cases l with
      | name text =>
          cases h
          exact ⟨_, rfl, rfl⟩
      | _ => cases h

lemma of_ifNotTooHigh_eq_ok {p : Formula × List Token} (h : ifNotTooHigh t f rest = .ok p) :
    p = (f, rest) ∧ f.height ≤ maxNesting := by
  by_cases hf : f.height ≤ maxNesting
  · rw [ifNotTooHigh, if_pos hf] at h
    cases h
    exact ⟨rfl, hf⟩
  · rw [ifNotTooHigh, if_neg hf] at h
    cases h

/-- Whether the front of the tokens is a sentence within the limits. -/
def Reads (levels : Nat) (k : Category) (tokens : List Token) (f : Formula)
    (rest : List Token) : Prop :=
  ∃ front n, tokens = front ++ rest ∧ Derives k (front.map Token.lexeme) f n ∧ Within levels f n

/-- A loop that reads what the chain joins extends a chain. -/
lemma reads_chain {op : Reader Formula}
    (hop : ∀ {tokens g rest}, op tokens = .ok (g, rest) → Reads levels c.part tokens g rest)
    {left : Formula} (hleft : Derives (.chain c) (front.map Token.lexeme) left n)
    (hwithin : Within levels left n) (h : chain c op left tokens = .ok (f, rest)) :
    Reads levels (.chain c) (front ++ tokens) f rest := by
  fun_induction chain c op left tokens generalizing front n with
  | case1 left =>
      cases h
      exact ⟨front, n, rfl, hleft, hwithin⟩
  | case2 => cases h
  | case3 left t tail ht right rest' hright hheight ih =>
      obtain ⟨operand, m, htail, hoperand, hw⟩ := hop hright
      have hjoined : Derives (.chain c) ((front ++ t :: operand).map Token.lexeme)
          (c.join left right) (max n m) := by
        rw [List.map_append, List.map_cons, ht]
        exact hleft.join hoperand
      have hread := ih hjoined ⟨hheight, Nat.max_le.2 ⟨hwithin.2, hw.2⟩⟩ h
      rwa [List.append_assoc, List.cons_append, ← htail] at hread
  | case4 => cases h
  | case5 left t tail ht =>
      cases h
      exact ⟨front, n, rfl, hleft, hwithin⟩

/-- A chain starts with what it joins. -/
lemma reads_of_part
    (hpart : ∀ {tokens f rest}, reader levels c.part tokens = .ok (f, rest) →
      Reads levels c.part tokens f rest)
    (h : reader levels (.chain c) tokens = .ok (f, rest)) :
    Reads levels (.chain c) tokens f rest := by
  rw [reader_chain, bind_eq_ok_iff] at h
  obtain ⟨⟨left, tail⟩, hleft, h⟩ := h
  obtain ⟨front, n, rfl, hfront, hw⟩ := hpart hleft
  exact reads_chain hpart (.single hfront) hw h

/-- What is read by category follows from what is read of operands. -/
lemma reads_of_operand
    (hop : ∀ {tokens f rest}, operand levels tokens = .ok (f, rest) →
      Reads levels .operand tokens f rest)
    (h : reader levels k tokens = .ok (f, rest)) : Reads levels k tokens f rest := by
  cases k with
  | operand => exact hop h
  | chain c =>
      cases c with
      | and => exact reads_of_part (c := .and) hop h
      | or => exact reads_of_part (c := .or) (reads_of_part (c := .and) hop) h

/-- The ways in which an operand is read. -/
lemma operand_cases (h : operand levels tokens = .ok (f, rest)) :
    (∃ t w, tokens = t :: rest ∧ t.lexeme = .name w ∧ f = .atom w) ∨
    (∃ m t tail g, levels = m + 1 ∧ tokens = t :: tail ∧ t.lexeme = .not ∧
      reader m .operand tail = .ok (g, rest) ∧ f = .not g ∧ f.height ≤ maxNesting) ∨
    (∃ m t tail e, levels = m + 1 ∧ tokens = t :: tail ∧ t.lexeme = .opening ∧
      reader m (.chain .or) tail = .ok (f, e :: rest) ∧ e.lexeme = .closing) ∨
    (∃ m t tail c, levels = m + 1 ∧ tokens = t :: tail ∧ t.lexeme = .name c.callName ∧
      arguments c t (operand m) tail = .ok (f, rest)) := by
  cases tokens with
  | nil =>
      rw [operand.eq_def] at h
      cases h
  | cons t tail =>
      cases hlex : t.lexeme with
      | name w =>
          by_cases hopening : next tail = some .opening
          · cases hcall : Connective.ofCallName? w with
            | none =>
                rw [operand_of_ofCallName? hlex hcall] at h
                cases h
                exact Or.inl ⟨t, w, rfl, hlex, rfl⟩
            | some c =>
                rw [← eq_callName hcall] at hlex
                cases levels with
                | zero =>
                    rw [operand_zero (Or.inr (Or.inr ⟨hlex, hopening⟩))] at h
                    cases h
                | succ m =>
                    rw [operand_call hlex hopening] at h
                    exact Or.inr (Or.inr (Or.inr ⟨m, t, tail, c, rfl, rfl, hlex, h⟩))
          · rw [operand_name hlex hopening] at h
            cases h
            exact Or.inl ⟨t, w, rfl, hlex, rfl⟩
      | not =>
          cases levels with
          | zero =>
              rw [operand_zero (c := .and) (Or.inl hlex)] at h
              cases h
          | succ m =>
              rw [operand_not hlex, bind_eq_ok_iff] at h
              obtain ⟨⟨g, rest'⟩, hg, h⟩ := h
              obtain ⟨heq, hheight⟩ := of_ifNotTooHigh_eq_ok h
              cases heq
              exact Or.inr (Or.inl ⟨m, t, tail, g, rfl, rfl, hlex, hg, rfl, hheight⟩)
      | opening =>
          cases levels with
          | zero =>
              rw [operand_zero (c := .and) (Or.inr (Or.inl hlex))] at h
              cases h
          | succ m =>
              rw [operand_group hlex, bind_eq_ok_iff] at h
              obtain ⟨⟨g, rest'⟩, hg, h⟩ := h
              obtain ⟨⟨u, rest''⟩, hclosing, h⟩ := bind_eq_ok_iff.1 h
              cases h
              obtain ⟨e, rfl, he⟩ := of_lexeme_eq_ok hclosing
              exact Or.inr (Or.inr (Or.inl ⟨m, t, tail, e, rfl, rfl, hlex, hg, he⟩))
      | _ =>
          rw [operand.eq_def] at h
          simp only [hlex] at h
          cases h

/-- The parts of the arguments of a call. -/
lemma of_arguments_eq_ok (h : arguments c t (operand levels) tokens = .ok (f, rest)) :
    ∃ o a₁ s₁ a₂ s₂ s e θ₁ θ₂ l r tail tail',
      tokens = o :: a₁ :: s₁ :: a₂ :: s₂ :: tail ∧ o.lexeme = .opening ∧
        a₁.lexeme = .name θ₁ ∧ s₁.lexeme = .comma ∧ a₂.lexeme = .name θ₂ ∧ s₂.lexeme = .comma ∧
        reader levels (.chain .or) tail = .ok (l, s :: tail') ∧ s.lexeme = .comma ∧
        reader levels (.chain .or) tail' = .ok (r, e :: rest) ∧ e.lexeme = .closing ∧
        f = c.weigh θ₁ θ₂ l r ∧ f.height ≤ maxNesting := by
  rw [arguments, bind_eq_ok_iff] at h
  obtain ⟨⟨_, _⟩, hopening, h₁⟩ := h
  obtain ⟨⟨θ₁, _⟩, hname₁, h₂⟩ := bind_eq_ok_iff.1 h₁
  obtain ⟨⟨_, _⟩, hcomma₁, h₃⟩ := bind_eq_ok_iff.1 h₂
  obtain ⟨⟨θ₂, _⟩, hname₂, h₄⟩ := bind_eq_ok_iff.1 h₃
  obtain ⟨⟨_, _⟩, hcomma₂, h₅⟩ := bind_eq_ok_iff.1 h₄
  obtain ⟨⟨l, _⟩, hl, h₆⟩ := bind_eq_ok_iff.1 h₅
  obtain ⟨⟨_, _⟩, hcomma, h₇⟩ := bind_eq_ok_iff.1 h₆
  obtain ⟨⟨r, _⟩, hr, h₈⟩ := bind_eq_ok_iff.1 h₇
  obtain ⟨⟨_, _⟩, hclosing, h₉⟩ := bind_eq_ok_iff.1 h₈
  obtain ⟨o, rfl, ho⟩ := of_lexeme_eq_ok hopening
  obtain ⟨a₁, rfl, ha₁⟩ := of_name_eq_ok hname₁
  obtain ⟨s₁, rfl, hs₁⟩ := of_lexeme_eq_ok hcomma₁
  obtain ⟨a₂, rfl, ha₂⟩ := of_name_eq_ok hname₂
  obtain ⟨s₂, rfl, hs₂⟩ := of_lexeme_eq_ok hcomma₂
  obtain ⟨s, rfl, hs⟩ := of_lexeme_eq_ok hcomma
  obtain ⟨e, rfl, he⟩ := of_lexeme_eq_ok hclosing
  obtain ⟨heq, hheight⟩ := of_ifNotTooHigh_eq_ok h₉
  cases heq
  exact ⟨o, a₁, s₁, a₂, s₂, s, e, θ₁, θ₂, l, r, _, _, rfl, ho, ha₁, hs₁, ha₂, hs₂, hl, hs, hr, he,
    rfl, hheight⟩

/-- **Whatever is read as an operand is one, within the limits.**  Reading the parts uses up a
level, so the induction is on the levels left. -/
lemma reads_of_operand_eq_ok (h : operand levels tokens = .ok (f, rest)) :
    Reads levels .operand tokens f rest := by
  induction levels using Nat.strong_induction_on generalizing tokens f rest with
  | _ levels ih =>
      rcases operand_cases h with ⟨t, w, rfl, ht, rfl⟩ |
        ⟨m, t, tail, g, rfl, rfl, ht, hg, rfl, hheight⟩ |
        ⟨m, t, tail, e, rfl, rfl, ht, hg, he⟩ | ⟨m, t, tail, c, rfl, rfl, ht, hargs⟩
      · refine ⟨[t], 0, rfl, ?_, within_atom levels w⟩
        rw [List.map_singleton, ht]
        exact .name w
      · obtain ⟨front, n, rfl, hfront, hw⟩ := ih m (Nat.lt_succ_self m) hg
        refine ⟨t :: front, n + 1, rfl, ?_, hheight, Nat.succ_le_succ hw.2⟩
        rw [List.map_cons, ht]
        exact .not hfront
      · obtain ⟨front, n, rfl, hfront, hw⟩ := reads_of_operand (ih m (Nat.lt_succ_self m)) hg
        refine ⟨t :: (front ++ [e]), n + 1, by simp, ?_, hw.1, Nat.succ_le_succ hw.2⟩
        rw [List.map_cons, List.map_append, List.map_singleton, ht, he]
        exact .group hfront
      · obtain ⟨o, a₁, s₁, a₂, s₂, s, e, θ₁, θ₂, l, r, tail, tail', rfl, ho, ha₁, hs₁, ha₂, hs₂, hl,
          hs, hr, he, rfl, hheight⟩ := of_arguments_eq_ok hargs
        obtain ⟨left, n, rfl, hleft, hwl⟩ := reads_of_operand (ih m (Nat.lt_succ_self m)) hl
        obtain ⟨right, n', rfl, hright, hwr⟩ := reads_of_operand (ih m (Nat.lt_succ_self m)) hr
        refine ⟨t :: o :: a₁ :: s₁ :: a₂ :: s₂ :: (left ++ s :: (right ++ [e])), max n n' + 1,
          by simp, ?_, hheight, Nat.succ_le_succ (Nat.max_le.2 ⟨hwl.2, hwr.2⟩)⟩
        simp only [List.map_cons, List.map_append, List.map_nil, ht, ho, ha₁, hs₁, ha₂, hs₂, hs, he]
        exact .call c θ₁ θ₂ hleft hright

/-! ## Formulas -/

/-- What becomes of a sentence that is the whole text. -/
lemma formula_of_derives (h : Derives (.chain .or) (tokens.map Token.lexeme) f n) :
    (Within maxNesting f n ∧ formula tokens = .ok f) ∨
      (¬ Within maxNesting f n ∧ ∃ t, formula tokens = .error ⟨.shallowerNesting, some t⟩) := by
  have hends : Ends (.chain .or) [] := ⟨by decide, fun _ => by decide⟩
  have hanswer : Answers maxNesting (.chain .or) f n [] _ := answers_of_derives h rfl hends
  rw [List.append_nil] at hanswer
  rcases hanswer with ⟨hw, hx⟩ | ⟨hw, t, hx⟩
  · have hread : disjunction (operand maxNesting) tokens = .ok (f, []) := by
      rw [← chain_stop (c := .or) (by decide) _ f]
      exact hx
    rw [formula, hread]
    exact Or.inl ⟨hw, rfl⟩
  · have hread : disjunction (operand maxNesting) tokens = .error ⟨.shallowerNesting, some t⟩ := hx
    rw [formula, hread]
    exact Or.inr ⟨hw, t, rfl⟩

/-- **The reader of formulas accepts the sentences within the limits**, and nothing else. -/
lemma formula_eq_ok_iff :
    formula tokens = .ok f ↔
      ∃ n, Derives (.chain .or) (tokens.map Token.lexeme) f n ∧ Within maxNesting f n := by
  constructor
  · intro h
    rw [formula, bind_eq_ok_iff] at h
    obtain ⟨⟨g, rest⟩, hread, h⟩ := h
    obtain ⟨front, n, rfl, hfront, hw⟩ := reads_of_operand reads_of_operand_eq_ok
      (k := .chain .or) hread
    cases rest with
    | nil =>
        cases h
        rw [List.append_nil]
        exact ⟨n, hfront, hw⟩
    | cons t rest => cases h
  · rintro ⟨n, hsentence, hw⟩
    rcases formula_of_derives hsentence with ⟨-, hok⟩ | ⟨hbeyond, -⟩
    · exact hok
    · exact absurd hw hbeyond

end GradedQuery.Parser

namespace GradedQuery

variable {text : String} {f : Formula} {tokens : Tokens} {n : Nat}

lemma parse_of_tokenize (h : tokenize text = .ok tokens) :
    parse text = (Parser.formula tokens.list).mapError (·.toError tokens.stop) := by
  rw [parse, h]

lemma Parser.Refusal.toError_eq (stop : Nat) (r : Parser.Refusal) :
    r.toError stop = .misplaced r.expected (r.token.map Token.lexeme)
      ((r.token.map Token.offset).getD stop) := by
  obtain ⟨expected, _ | t⟩ := r <;> rfl

/-- A misplaced token is one that the reader of formulas refuses. -/
lemma of_parse_eq_misplaced {expected : Expectation} {found : Option Lexeme} {offset : Nat}
    (h : parse text = .error (.misplaced expected found offset)) :
    ∃ tokens token, tokenize text = .ok tokens ∧
      Parser.formula tokens.list = .error ⟨expected, token⟩ ∧ found = token.map Token.lexeme ∧
      offset = (token.map Token.offset).getD tokens.stop := by
  cases htokens : tokenize text with
  | error stray =>
      rw [parse, htokens] at h
      cases h
  | ok tokens =>
      rw [parse_of_tokenize htokens] at h
      cases hx : Parser.formula tokens.list with
      | ok f =>
          rw [hx] at h
          cases h
      | error r =>
          rw [hx] at h
          change Except.error (r.toError tokens.stop) = _ at h
          rw [Parser.Refusal.toError_eq] at h
          cases h
          exact ⟨tokens, r.token, rfl, hx, rfl, rfl⟩

/-- Whether the tokens of a text are a sentence with the tree `f`, where neither the height of the
tree nor the number of levels that are open at once exceeds the limit. -/
def IsSentence (text : String) (f : Formula) : Prop :=
  ∃ tokens n, tokenize text = .ok tokens ∧
    Derives (.chain .or) (tokens.list.map Token.lexeme) f n ∧ f.height ≤ maxNesting ∧
      n ≤ maxNesting

lemma parse_eq_ok_iff : parse text = .ok f ↔ IsSentence text f := by
  cases htokens : tokenize text with
  | error stray =>
      rw [parse, htokens]
      constructor
      · intro h
        cases h
      · rintro ⟨tokens, n, h, -⟩
        rw [htokens] at h
        cases h
  | ok tokens =>
      rw [parse_of_tokenize htokens, mapError_eq_ok_iff, Parser.formula_eq_ok_iff]
      constructor
      · rintro ⟨n, hsentence, hw⟩
        exact ⟨tokens, n, htokens, hsentence, hw⟩
      · rintro ⟨tokens', n, h, hsentence, hw⟩
        rw [htokens] at h
        cases h
        exact ⟨n, hsentence, hw⟩

/-- **A sentence beyond the limits is refused for being nested too deeply.** -/
lemma parse_eq_error (h : tokenize text = .ok tokens)
    (hsentence : Derives (.chain .or) (tokens.list.map Token.lexeme) f n)
    (hbeyond : ¬ (f.height ≤ maxNesting ∧ n ≤ maxNesting)) :
    ∃ found offset, parse text = .error (.misplaced .shallowerNesting (some found) offset) := by
  rw [parse_of_tokenize h]
  rcases Parser.formula_of_derives hsentence with ⟨hw, -⟩ | ⟨-, t, ht⟩
  · exact absurd hw hbeyond
  · rw [ht]
    exact ⟨t.lexeme, t.offset, rfl⟩

/-- **The parser accepts exactly the sentences of the grammar within the limits.**  A text is a
sentence with one tree at most, and a name stands before a parenthesis in it only as the name of a
weighted call. -/
theorem parse_iff_isSentence (text : String) :
    (∀ f, parse text = .ok f ↔ IsSentence text f) ∧
      (∀ f g, IsSentence text f → IsSentence text g → f = g) ∧
      ∀ f, IsSentence text f → ∃ tokens, tokenize text = .ok tokens ∧
        (tokens.list.map Token.lexeme).IsChain Lexeme.Precedes := by
  refine ⟨fun f => parse_eq_ok_iff, fun f g hf hg => ?_, fun f hf => ?_⟩
  · have hparse : parse text = .ok f := parse_eq_ok_iff.2 hf
    rw [parse_eq_ok_iff.2 hg] at hparse
    cases hparse
    rfl
  · obtain ⟨tokens, n, htokens, hsentence, -⟩ := hf
    exact ⟨tokens, htokens, hsentence.callName_of_opening⟩

end GradedQuery
