import GradedQuery.Compile
import GradedQuery.Proofs.CaseSplit
import GradedQuery.Proofs.WeightExpansion

/-!
# The stages of a compilation

A compilation keeps the formula of every stage.  **`outcome_compile_eq_ok`** says what it is made
of: the formula of the text, its expansion, and the normalized form of that.

The first step changes the meaning only in weights that are called like constants
(`Formula.holds_expand_eq`), the second one nowhere (`Formula.holds_of_normalize`).  So under an
assignment that gives the constants their values **all three formulas have one truth value**.

Only the first step can fail.  The expansion leaves no weighted connective that a later stage could
refuse, and the normalizer finds a literal whenever it has to split, so **a text is compiled exactly
if it can be read**, and what a failed compilation reports is why it cannot.
-/

namespace GradedQuery

variable {opts : SplitOptions} {naming : Naming} {text : String} {c : Compiled}
  {s : String → Bool}

/-- A normalized formula means the same as the formula it comes from. -/
lemma Formula.holds_of_normalize {f g : Formula} (s : String → Bool)
    (h : (f.normalize opts naming).outcome = .ok g) : g.holds s = f.holds s := by
  obtain ⟨d, e, hd, he, rfl⟩ := outcome_normalize_eq_ok.1 h
  obtain ⟨hwf, hsame⟩ := Dnf.of_normalize_eq_ok (Dnf.WellFormed.ofFormula hd) he
  calc e.toFormula.holds s
      = e.holds s := Dnf.holds_toFormula s hwf
    _ = d.holds s := hsame s
    _ = (f.holds s != false) := Dnf.holds_ofSigned s (Dnf.ofFormulaIn_eq_ok.1 hd)
    _ = f.holds s := Bool.bne_false _

/-- A compilation succeeds exactly if the text is a formula whose expansion can be normalized. -/
lemma outcome_compile_eq_ok :
    (compile opts naming text).outcome = .ok c ↔
      parse text = .ok c.parsed ∧ c.expanded = c.parsed.expand ∧
        (c.expanded.normalize opts naming).outcome = .ok c.normalized := by
  simp only [compile, Traced.outcome_bind_eq_ok_iff, Traced.outcome_ofExcept,
    Traced.outcome_report, Traced.outcome_pure, mapError_eq_ok_iff, Except.ok.injEq]
  constructor
  · rintro ⟨f, hf, -, -, -, -, g, hg, -, -, rfl⟩
    exact ⟨hf, rfl, hg⟩
  · rintro ⟨hf, hexpand, hg⟩
    rw [hexpand] at hg
    refine ⟨c.parsed, hf, (), trivial, (), trivial, c.normalized, hg, (), trivial, ?_⟩
    rw [← hexpand]

/-- **The stages of a compilation agree**: under an assignment that gives the constants their
values, the formula of the text, its expansion and the normalized formula have one truth value. -/
theorem holds_compile (h : (compile opts naming text).outcome = .ok c)
    (htrue : s Formula.trueName = true) (hfalse : s Formula.falseName = false) :
    parse text = .ok c.parsed ∧ c.expanded.holds s = c.parsed.holds s ∧
      c.normalized.holds s = c.parsed.holds s := by
  obtain ⟨hparse, hexpand, hnormalize⟩ := outcome_compile_eq_ok.1 h
  have hexpanded : c.expanded.holds s = c.parsed.holds s := by
    rw [hexpand, Formula.holds_expand_eq, Formula.atomHolds_eq_self htrue hfalse]
  refine ⟨hparse, hexpanded, ?_⟩
  rw [Formula.holds_of_normalize s hnormalize, hexpanded]

/-- A weight `TRUE`, and a case split on `p`, as all atoms are on one attribute. -/
theorem holds_compile_weight_true :
    let c : Compiled := {
      parsed := .weightedOr "TRUE" "t" (.atom "p") (.atom "t")
      expanded := .or (.and (.atom "p") (.atom "TRUE")) (.and (.atom "t") (.atom "t"))
      normalized := .or (.atom "p") (.and (.not (.atom "p")) (.atom "t")) }
    (compile ⟨.singleton "q", 1⟩ (fun _ => "q") "WOR(TRUE,t,p,t)").outcome = .ok c ∧
      parse "WOR(TRUE,t,p,t)" = .ok c.parsed ∧
      c.expanded.holds (· != "FALSE") = c.parsed.holds (· != "FALSE") ∧
      c.normalized.holds (· != "FALSE") = c.parsed.holds (· != "FALSE") := by
  intro c
  have h : (compile ⟨.singleton "q", 1⟩ (fun _ => "q") "WOR(TRUE,t,p,t)").outcome = .ok c := by
    cbv
  exact ⟨h, holds_compile h (by decide) (by decide)⟩

/-! ## Failures -/

/-- Every plain formula can be normalized, whatever the options are. -/
lemma Formula.exists_normalize (opts : SplitOptions) (naming : Naming) {f : Formula}
    (hf : f.isExpanded = true) : ∃ g, (f.normalize opts naming).outcome = .ok g := by
  obtain ⟨d, hd, hwf, -⟩ := Dnf.exists_ofFormula hf
  obtain ⟨e, he, -, -⟩ := Dnf.exists_normalize opts naming hwf
  exact ⟨e.toFormula, outcome_normalize_eq_ok.2 ⟨d, e, hd, he, rfl⟩⟩

/-- A text that can be read is compiled. -/
lemma exists_compile_of_parse (opts : SplitOptions) (naming : Naming) {f : Formula}
    (h : parse text = .ok f) :
    ∃ c, (compile opts naming text).outcome = .ok c ∧ c.parsed = f := by
  obtain ⟨g, hg⟩ := Formula.exists_normalize opts naming f.isExpanded_expand
  exact ⟨⟨f, f.expand, g⟩, outcome_compile_eq_ok.2 ⟨h, rfl, hg⟩, rfl⟩

/-- A text that cannot be read ends the compilation with the parser's error, and nothing has been
reported before it. -/
lemma compile_of_parse_eq_error (opts : SplitOptions) (naming : Naming) {p : ParseError}
    (h : parse text = .error p) : compile opts naming text = ⟨.error (.parse p), []⟩ := by
  rw [compile, h]
  exact Traced.bind_error (x := .ofExcept (.error (.parse p))) rfl _

/-- **A compilation fails exactly if the text cannot be read, with the parser's error.**  So no
stage ever refuses a weighted connective or misses a literal to split on. -/
theorem compile_eq_error_iff (opts : SplitOptions) (naming : Naming) (text : String) :
    (∀ e, (compile opts naming text).outcome = .error e ↔
        ∃ p, parse text = .error p ∧ e = .parse p) ∧
      ∀ f, parse text = .ok f → ∃ c, (compile opts naming text).outcome = .ok c ∧ c.parsed = f := by
  refine ⟨fun e => ⟨fun h => ?_, ?_⟩, fun f => exists_compile_of_parse opts naming⟩
  · cases hparse : parse text with
    | error p =>
        rw [compile_of_parse_eq_error opts naming hparse] at h
        cases h
        exact ⟨p, rfl, rfl⟩
    | ok f =>
        obtain ⟨c, hc, -⟩ := exists_compile_of_parse opts naming hparse
        rw [hc] at h
        cases h
  · rintro ⟨p, hparse, rfl⟩
    rw [compile_of_parse_eq_error opts naming hparse]

end GradedQuery
