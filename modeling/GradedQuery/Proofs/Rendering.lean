import GradedQuery.Proofs.Reading

/-!
# The canonical text of a formula

A rendered formula is a sentence again, with the formula as its tree
(`Formula.derives_lexemes`), so whether it parses back is a matter of the limits alone.  Its height
is that of the formula.  **Its nesting may be greater than that of the text it came from**: the
canonical text puts an operand of `!` into parentheses, so that every negation opens two levels
(`Formula.renderNesting`), where the text itself may have needed one.

**`parse_render`** draws the line: a formula parses back if its height and its rendered nesting are
within the limits, and is refused for being nested too deeply if they are not.
-/

namespace GradedQuery

variable {f l r : Formula} {ls : List Lexeme} {cs : List Char}

namespace Formula

/-- The lexemes of the canonical text. -/
def lexemes : Formula → List Lexeme
  | .atom name => [.name name]
  | .not f => .not :: .opening :: (f.lexemes ++ [.closing])
  | .and l r => .opening :: (l.lexemes ++ .and :: (r.lexemes ++ [.closing]))
  | .or l r => .opening :: (l.lexemes ++ .or :: (r.lexemes ++ [.closing]))
  | .weightedAnd θ₁ θ₂ l r => callLexemes .and θ₁ θ₂ l.lexemes r.lexemes
  | .weightedOr θ₁ θ₂ l r => callLexemes .or θ₁ θ₂ l.lexemes r.lexemes

/-- The greatest number of levels that are open at once in the canonical text. -/
def renderNesting : Formula → Nat
  | .atom _ => 0
  | .not f => f.renderNesting + 2
  | .and l r | .or l r | .weightedAnd _ _ l r | .weightedOr _ _ l r =>
    max l.renderNesting r.renderNesting + 1

/-! ## The canonical text is a sentence -/

lemma derives_disjunction {n : Nat} (h : Derives .operand ls f n) : Derives (.chain .or) ls f n :=
  .single (c := .or) (.single (c := .and) h)

/-- **The lexemes of the canonical text derive the formula**, with the nesting that it renders
to. -/
lemma derives_lexemes (f : Formula) : Derives .operand f.lexemes f f.renderNesting := by
  induction f with
  | atom name => exact .name name
  | not f ih => exact .not (.group (derives_disjunction ih))
  | and l r ihl ihr =>
      have hchain : Derives (.chain .and) (l.lexemes ++ .and :: r.lexemes) (.and l r)
          (max l.renderNesting r.renderNesting) := .join (c := .and) (.single (c := .and) ihl) ihr
      have hgroup := Derives.group (.single (c := .or) hchain)
      rwa [List.append_assoc, List.cons_append] at hgroup
  | or l r ihl ihr =>
      have hchain : Derives (.chain .or) (l.lexemes ++ .or :: r.lexemes) (.or l r)
          (max l.renderNesting r.renderNesting) :=
        .join (c := .or) (derives_disjunction ihl) (.single (c := .and) ihr)
      have hgroup := Derives.group hchain
      rwa [List.append_assoc, List.cons_append] at hgroup
  | weightedAnd θ₁ θ₂ l r ihl ihr =>
      exact .call .and θ₁ θ₂ (derives_disjunction ihl) (derives_disjunction ihr)
  | weightedOr θ₁ θ₂ l r ihl ihr =>
      exact .call .or θ₁ θ₂ (derives_disjunction ihl) (derives_disjunction ihr)

end Formula

/-! ## The canonical text is cut into its lexemes -/

/-- Whether a character list is cut into tokens with these lexemes, wherever it starts. -/
def Spells (ls : List Lexeme) (cs : List Char) : Prop :=
  ∀ offset, ∃ ts, Layout offset ts cs ∧ ts.map Token.lexeme = ls

namespace Spells

lemma nil : Spells [] [] := fun _ => ⟨[], .nil, rfl⟩

lemma blank {c : Char} (hc : Text.isBlank c = true) (h : Spells ls cs) : Spells ls (c :: cs) := by
  intro offset
  obtain ⟨ts, hts, hls⟩ := h (offset + c.utf8Size)
  exact ⟨ts, .blank hc hts, hls⟩

lemma mark {c : Char} {l : Lexeme} (hc : Lexeme.ofMark? c = some l) (h : Spells ls cs) :
    Spells (l :: ls) (c :: cs) := by
  intro offset
  obtain ⟨ts, hts, hls⟩ := h (offset + c.utf8Size)
  exact ⟨⟨l, offset⟩ :: ts, .mark hc hts, by rw [List.map_cons, hls]⟩

lemma name {w : String} (hw : isName w.toList = true)
    (hnext : ∀ c ∈ cs.head?, isNameChar c = false) (h : Spells ls cs) :
    Spells (.name w :: ls) (w.toList ++ cs) := by
  intro offset
  obtain ⟨ts, hts, hls⟩ := h (offset + utf8Length w.toList)
  have hlayout := Layout.name hw hnext hts
  rw [String.ofList_toList] at hlayout
  exact ⟨_, hlayout, by rw [List.map_cons, hls]⟩

end Spells

/-- Whether lexemes are what a text is cut into when anything but a name character follows it. -/
def Spelled (ls : List Lexeme) (cs : List Char) : Prop :=
  ∀ ls' cs', (∀ c ∈ cs'.head?, isNameChar c = false) → Spells ls' cs' →
    Spells (ls ++ ls') (cs ++ cs')

lemma head_not_nameChar {c : Char} (hc : isNameChar c = false) (cs : List Char) :
    ∀ d ∈ (c :: cs).head?, isNameChar d = false := by
  intro d hd
  cases hd
  exact hc

namespace Spelled

variable {rs : List Lexeme} {ds : List Char}

lemma name {w : String} (hw : isName w.toList = true) : Spelled [.name w] w.toList :=
  fun _ _ hnext h => h.name hw hnext

lemma not (hl : Spelled ls cs) :
    Spelled (.not :: .opening :: (ls ++ [.closing])) ('!' :: '(' :: (cs ++ [')'])) := by
  intro ls' cs' hnext h
  have hinner := hl _ _ (head_not_nameChar (by decide) cs') (h.mark (c := ')') (l := .closing) rfl)
  have hsentence := (hinner.mark (c := '(') (l := .opening) rfl).mark (c := '!') (l := .not) rfl
  simpa using hsentence

/-- Two parts in parentheses with a mark between them, and blanks around the mark. -/
lemma pair (c : Connective) (hl : Spelled ls cs) (hr : Spelled rs ds) :
    Spelled (.opening :: (ls ++ Parser.mark c :: (rs ++ [.closing])))
      ('(' :: (cs ++ ' ' :: ((Parser.mark c).chars ++ ' ' :: (ds ++ [')'])))) := by
  intro ls' cs' hnext h
  have hright := (hr _ _ (head_not_nameChar (by decide) cs')
    (h.mark (c := ')') (l := .closing) rfl)).blank (c := ' ') (by decide)
  have hmark : Spells (Parser.mark c :: (rs ++ .closing :: ls'))
      ((Parser.mark c).chars ++ ' ' :: (ds ++ ')' :: cs')) := by
    cases c with
    | and => exact hright.mark rfl
    | or => exact hright.mark rfl
  have hleft := hl _ _ (head_not_nameChar (by decide) _) (hmark.blank (c := ' ') (by decide))
  simpa using hleft.mark (c := '(') (l := .opening) rfl

lemma call {θ₁ θ₂ : String} (c : Connective) (h₁ : isName θ₁.toList = true)
    (h₂ : isName θ₂.toList = true) (hl : Spelled ls cs) (hr : Spelled rs ds) :
    Spelled (callLexemes c θ₁ θ₂ ls rs)
      (c.callName.toList ++ '(' :: (θ₁.toList ++ ',' :: (θ₂.toList ++ ',' ::
        (cs ++ ',' :: (ds ++ [')']))))) := by
  have hname : isName c.callName.toList = true := by cases c <;> decide
  have hcomma : ∀ cs, ∀ c ∈ (',' :: cs).head?, isNameChar c = false :=
    head_not_nameChar (by decide)
  have hopening : ∀ cs, ∀ c ∈ ('(' :: cs).head?, isNameChar c = false :=
    head_not_nameChar (by decide)
  intro ls' cs' hnext h
  have hright := hr _ _ (head_not_nameChar (by decide) cs') (h.mark (c := ')') (l := .closing) rfl)
  have hleft := hl _ _ (hcomma _) (hright.mark (c := ',') (l := .comma) rfl)
  have hsecond := (hleft.mark (c := ',') (l := .comma) rfl).name h₂ (hcomma _)
  have hfirst := (hsecond.mark (c := ',') (l := .comma) rfl).name h₁ (hcomma _)
  have hcall := (hfirst.mark (c := '(') (l := .opening) rfl).name hname (hopening _)
  simpa [callLexemes] using hcall

end Spelled

lemma render_join (c : Connective) (l r : Formula) :
    (c.join l r).render.toList =
      '(' :: (l.render.toList ++ ' ' :: ((Parser.mark c).chars ++ ' ' ::
        (r.render.toList ++ [')']))) := by
  cases c <;> simp [Connective.join, Formula.render, Parser.mark, Lexeme.chars]

lemma render_weigh (c : Connective) (θ₁ θ₂ : String) (l r : Formula) :
    (c.weigh θ₁ θ₂ l r).render.toList =
      c.callName.toList ++ '(' :: (θ₁.toList ++ ',' :: (θ₂.toList ++ ',' ::
        (l.render.toList ++ ',' :: (r.render.toList ++ [')'])))) := by
  cases c <;> simp [Connective.weigh, Formula.render, Connective.callName]

/-- Whether all names in a formula are names of the language. -/
def Formula.HasNames (f : Formula) : Prop := ∀ w ∈ f.names, isName w.toList = true

lemma Formula.hasNames_append :
    (∀ w ∈ l.names ++ r.names, isName w.toList = true) ↔ l.HasNames ∧ r.HasNames :=
  List.forall_mem_append

/-- **The canonical text of a formula is cut into its lexemes.** -/
lemma spelled_render (hf : f.HasNames) : Spelled f.lexemes f.render.toList := by
  induction f with
  | atom name => exact Spelled.name (hf name List.mem_cons_self)
  | not f ih =>
      have htext : (Formula.not f).render.toList = '!' :: '(' :: (f.render.toList ++ [')']) := by
        simp [Formula.render]
      rw [htext]
      exact (ih hf).not
  | and l r ihl ihr =>
      obtain ⟨hl, hr⟩ := Formula.hasNames_append.1 hf
      exact (render_join .and l r).symm ▸ (ihl hl).pair .and (ihr hr)
  | or l r ihl ihr =>
      obtain ⟨hl, hr⟩ := Formula.hasNames_append.1 hf
      exact (render_join .or l r).symm ▸ (ihl hl).pair .or (ihr hr)
  | weightedAnd θ₁ θ₂ l r ihl ihr =>
      obtain ⟨h₁, hrest⟩ := List.forall_mem_cons.1 hf
      obtain ⟨h₂, hsides⟩ := List.forall_mem_cons.1 hrest
      obtain ⟨hl, hr⟩ := Formula.hasNames_append.1 hsides
      exact (render_weigh .and θ₁ θ₂ l r).symm ▸ Spelled.call .and h₁ h₂ (ihl hl) (ihr hr)
  | weightedOr θ₁ θ₂ l r ihl ihr =>
      obtain ⟨h₁, hrest⟩ := List.forall_mem_cons.1 hf
      obtain ⟨h₂, hsides⟩ := List.forall_mem_cons.1 hrest
      obtain ⟨hl, hr⟩ := Formula.hasNames_append.1 hsides
      exact (render_weigh .or θ₁ θ₂ l r).symm ▸ Spelled.call .or h₁ h₂ (ihl hl) (ihr hr)

/-! ## Parsing back -/

/-- The canonical text is cut into tokens that derive the formula. -/
lemma tokenize_render (hf : f.HasNames) :
    ∃ tokens, tokenize f.render = .ok tokens ∧
      Derives (.chain .or) (tokens.list.map Token.lexeme) f f.renderNesting := by
  have hspells := spelled_render hf [] [] (fun c hc => by cases hc) Spells.nil
  rw [List.append_nil, List.append_nil] at hspells
  obtain ⟨tokens, htokens, hlexemes⟩ := hspells 0
  refine ⟨⟨tokens, _⟩, tokenize_eq_ok_iff.2 ⟨htokens, rfl⟩, ?_⟩
  rw [hlexemes]
  exact Formula.derives_disjunction f.derives_lexemes

/-- **A formula parses back exactly within the limits**, and is refused for being nested too
deeply beyond them. -/
lemma parse_render (hf : f.HasNames) :
    (f.height ≤ maxNesting ∧ f.renderNesting ≤ maxNesting ∧ parse f.render = .ok f) ∨
      (¬ (f.height ≤ maxNesting ∧ f.renderNesting ≤ maxNesting) ∧
        ∃ found offset,
          parse f.render = .error (.misplaced .shallowerNesting (some found) offset)) := by
  obtain ⟨tokens, htokens, hsentence⟩ := tokenize_render hf
  by_cases hwithin : f.height ≤ maxNesting ∧ f.renderNesting ≤ maxNesting
  · obtain ⟨hheight, hnesting⟩ := hwithin
    exact Or.inl ⟨hheight, hnesting,
      parse_eq_ok_iff.2 ⟨tokens, _, htokens, hsentence, hheight, hnesting⟩⟩
  · exact Or.inr ⟨hwithin, parse_eq_error htokens hsentence hwithin⟩

/-! ## What the parser yields -/

/-- The names in the tree of a sentence are among its lexemes. -/
lemma Derives.mem_of_mem_names {k : Category} {n : Nat} (h : Derives k ls f n) {w : String}
    (hw : w ∈ f.names) : .name w ∈ ls := by
  induction h with
  | name w' =>
      rw [Formula.names, List.mem_singleton] at hw
      rw [hw]
      exact List.mem_cons_self
  | not _ ih => exact List.mem_cons_of_mem _ (ih hw)
  | group _ ih => exact List.mem_cons_of_mem _ (List.mem_append_left _ (ih hw))
  | call c θ₁ θ₂ _ _ ihl ihr =>
      rw [Formula.names_weigh] at hw
      simp only [List.mem_cons, List.mem_append] at hw
      rcases hw with rfl | rfl | hw | hw
      · simp [callLexemes]
      · simp [callLexemes]
      · simp [callLexemes, ihl hw]
      · simp [callLexemes, ihr hw]
  | single _ ih => exact ih hw
  | join _ _ ihl ihr =>
      rw [Formula.names_join, List.mem_append] at hw
      rcases hw with hw | hw
      · exact List.mem_append_left _ (ihl hw)
      · exact List.mem_append_right _ (List.mem_cons_of_mem _ (ihr hw))

/-- A parsed formula has names of the language and keeps to the height limit. -/
lemma of_parse_eq_ok {text : String} (h : parse text = .ok f) :
    f.HasNames ∧ f.height ≤ maxNesting := by
  obtain ⟨tokens, n, htokens, hsentence, hheight, -⟩ := parse_eq_ok_iff.1 h
  refine ⟨fun w hw => ?_, hheight⟩
  exact (tokenize_eq_ok_iff.1 htokens).1.isName (hsentence.mem_of_mem_names hw)

/-- **A parsed formula parses back exactly if its canonical text is not nested too deeply.** -/
theorem parse_render_of_parse {text : String} (h : parse text = .ok f) :
    (parse f.render = .ok f ↔ f.renderNesting ≤ maxNesting) ∧
      (maxNesting < f.renderNesting → ∃ found offset,
        parse f.render = .error (.misplaced .shallowerNesting (some found) offset)) := by
  obtain ⟨hnames, hheight⟩ := of_parse_eq_ok h
  rcases parse_render hnames with ⟨-, hnesting, hparse⟩ | ⟨hbeyond, found, offset, hparse⟩
  · exact ⟨⟨fun _ => hnesting, fun _ => hparse⟩, fun hlt => absurd hlt (Nat.not_lt.2 hnesting)⟩
  · have hdeep : ¬ f.renderNesting ≤ maxNesting := fun hn => hbeyond ⟨hheight, hn⟩
    refine ⟨⟨fun hok => ?_, fun hn => absurd hn hdeep⟩, fun _ => ⟨found, offset, hparse⟩⟩
    rw [hparse] at hok
    cases hok

/-! ## Repeated negation

Each `!` of a text needs one level, and two in the canonical text.  From 129 negations on, what was
parsed is refused. -/

/-- The text of an atom under `n` negations, written without parentheses. -/
def negations (n : Nat) : String := String.ofList (List.replicate n '!' ++ ['A'])

lemma spells_negations (n : Nat) :
    Spells (List.replicate n .not ++ [.name "A"]) (List.replicate n '!' ++ ['A']) := by
  induction n with
  | zero => exact Spells.nil.name (w := "A") (by decide) (fun c hc => by cases hc)
  | succ n ih => exact ih.mark (c := '!') (l := .not) rfl

lemma derives_negations (n : Nat) :
    Derives .operand (List.replicate n .not ++ [.name "A"]) (Formula.not^[n] (.atom "A")) n := by
  induction n with
  | zero => exact .name "A"
  | succ n ih =>
      rw [Function.iterate_succ_apply']
      exact .not ih

lemma height_negations (n : Nat) (f : Formula) : (Formula.not^[n] f).height = f.height + n := by
  induction n with
  | zero => rfl
  | succ n ih => rw [Function.iterate_succ_apply', Formula.height, ih, Nat.add_assoc]

lemma renderNesting_negations (n : Nat) (f : Formula) :
    (Formula.not^[n] f).renderNesting = f.renderNesting + 2 * n := by
  induction n with
  | zero => rfl
  | succ n ih =>
      rw [Function.iterate_succ_apply', Formula.renderNesting, ih, Nat.mul_succ, Nat.add_assoc]

lemma names_negations (n : Nat) (f : Formula) : (Formula.not^[n] f).names = f.names := by
  induction n with
  | zero => rfl
  | succ n ih => rw [Function.iterate_succ_apply', Formula.names, ih]

lemma parse_negations {n : Nat} (hn : n < maxNesting) :
    parse (negations n) = .ok (Formula.not^[n] (.atom "A")) := by
  obtain ⟨tokens, htokens, hlexemes⟩ := spells_negations n 0
  refine parse_eq_ok_iff.2 ⟨⟨tokens, _⟩, n, tokenize_eq_ok_iff.2 ⟨?_, rfl⟩, ?_, ?_, Nat.le_of_lt hn⟩
  · rw [negations, String.toList_ofList]
    exact htokens
  · rw [hlexemes]
    exact Formula.derives_disjunction (derives_negations n)
  · rw [height_negations, Formula.height, Nat.add_comm]
    exact hn

/-- A hundred negations parse back: their canonical text opens 200 levels. -/
theorem parse_render_of_parse_hundred :
    parse (negations 100) = .ok (Formula.not^[100] (.atom "A")) ∧
      parse (Formula.not^[100] (.atom "A")).render = .ok (Formula.not^[100] (.atom "A")) := by
  have hparse : parse (negations 100) = .ok (Formula.not^[100] (.atom "A")) :=
    parse_negations (by decide)
  refine ⟨hparse, (parse_render_of_parse hparse).1.2 ?_⟩
  rw [renderNesting_negations]
  decide

/-- **129 negations are parsed and do not parse back.** -/
theorem parse_render_ne_of_parse :
    parse (negations 129) = .ok (Formula.not^[129] (.atom "A")) ∧
      parse (Formula.not^[129] (.atom "A")).render ≠ .ok (Formula.not^[129] (.atom "A")) := by
  have hparse : parse (negations 129) = .ok (Formula.not^[129] (.atom "A")) :=
    parse_negations (by decide)
  refine ⟨hparse, fun hback => ?_⟩
  rcases parse_render (of_parse_eq_ok hparse).1 with ⟨-, hnesting, -⟩ | ⟨-, found, offset, hrefused⟩
  · rw [renderNesting_negations] at hnesting
    exact absurd hnesting (by decide)
  · rw [hrefused] at hback
    cases hback

/-! ## Both limits

Neither limit makes up for the other one: the canonical text of a chain of 257 atoms opens only 256
levels, but its tree is too high, and 129 negations open 258 levels in a tree of height 130. -/

/-- **Parsing undoes rendering exactly for the trees within the limits**, whatever their names are;
beyond them the canonical text is refused, as at most 256 nested levels are expected. -/
theorem parse_render_iff_within (hf : f.HasNames) :
    (parse f.render = .ok f ↔ f.height ≤ 256 ∧ f.renderNesting ≤ 256) ∧
      (¬ (f.height ≤ 256 ∧ f.renderNesting ≤ 256) → ∃ expected found offset,
        parse f.render = .error (.misplaced expected (some found) offset) ∧
          expected.describe = "at most 256 nested levels") := by
  have hrender := parse_render hf
  rw [show maxNesting = 256 from rfl] at hrender
  rcases hrender with ⟨hheight, hnesting, hparse⟩ | ⟨hbeyond, found, offset, hparse⟩
  · exact ⟨⟨fun _ => ⟨hheight, hnesting⟩, fun _ => hparse⟩,
      fun hbeyond => absurd ⟨hheight, hnesting⟩ hbeyond⟩
  · refine ⟨⟨fun hok => ?_, fun hwithin => absurd hwithin hbeyond⟩,
      fun _ => ⟨.shallowerNesting, found, offset, hparse, by decide⟩⟩
    rw [hparse] at hok
    cases hok

/-- Names that look like calls and constants, under as many negations as the limit allows, and
under one more. -/
theorem parse_render_iff_within_negations :
    let f : Formula := .weightedOr "WAND" "TRUE" (.atom "WOR") (.and (.atom "FALSE") (.atom "_1"))
    f.HasNames ∧ parse (Formula.not^[127] f).render = .ok (Formula.not^[127] f) ∧
      ∃ expected found offset, parse (Formula.not^[128] f).render =
          .error (.misplaced expected (some found) offset) ∧
        expected.describe = "at most 256 nested levels" := by
  intro f
  have hf : f.HasNames := by
    show ∀ w ∈ f.names, isName w.toList = true
    decide
  have hnames : ∀ n, (Formula.not^[n] f).HasNames := fun n => by
    rw [Formula.HasNames, names_negations]
    exact hf
  have hwithin : (Formula.not^[127] f).height ≤ 256 ∧ (Formula.not^[127] f).renderNesting ≤ 256 := by
    rw [height_negations, renderNesting_negations]
    decide
  have hbeyond :
      ¬ ((Formula.not^[128] f).height ≤ 256 ∧ (Formula.not^[128] f).renderNesting ≤ 256) := by
    rw [height_negations, renderNesting_negations]
    decide
  exact ⟨hf, (parse_render_iff_within (hnames 127)).1.2 hwithin,
    (parse_render_iff_within (hnames 128)).2 hbeyond⟩

end GradedQuery
