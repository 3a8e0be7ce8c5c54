import GradedQuery.Formula
import GradedQuery.Formula.Token

/-!
# Parsing formulas

The grammar, loosest connective first:

* a disjunction is conjunctions joined by `|`, to the left;
* a conjunction is operands joined by `&`, to the left;
* an operand is `!` and an operand, a parenthesised disjunction, a weighted call
  `WAND(name,name,disjunction,disjunction)` or `WOR(…)`, or a name.

`WAND` and `WOR` are calls exactly when `(` follows; else they are names like any other.

Two limits keep the recursion over what was read shallow: a tree is at most `maxNesting` high, and
at most `maxNesting` marks `!`, parentheses and calls are open at once.  They also are what makes
the reader total: **opening a level uses up one of the levels left**, and **each step of a chain
makes the tree higher**.
-/

namespace GradedQuery

/-- The greatest height of a tree, and the greatest number of open `!`, `(` and weighted calls. -/
def maxNesting : Nat := 256

/-! ## Refusals -/

/-- What would have been accepted in the place of a refused token. -/
inductive Expectation where
  | lexeme (l : Lexeme)
  | endOfInput
  | name
  | operand
  | shallowerNesting
  deriving DecidableEq, Repr

/-- Why a text is no formula. -/
inductive ParseError where
  /-- A character that starts no lexeme. -/
  | strayCharacter (character : Char) (offset : Nat)
  /-- A token, or the end of the text (`none`), in the wrong place. -/
  | misplaced (expected : Expectation) (found : Option Lexeme) (offset : Nat)
  deriving DecidableEq, Repr

/-- How messages name what stands in a place. -/
def describeFound : Option Lexeme → String
  | some l => l.describe
  | none => "end of input"

/-- How messages name an expectation. -/
def Expectation.describe : Expectation → String
  | .lexeme l => l.describe
  | .endOfInput => describeFound none
  | .name => "identifier"
  | .operand => "identifier or '('"
  | .shallowerNesting => "at most " ++ toString maxNesting ++ " nested levels"

namespace ParseError

/-- The class of an error. -/
def kind : ParseError → String
  | .strayCharacter .. => "lex error"
  | .misplaced .. => "syntax error"

/-- The byte offset that an error points at. -/
def offset : ParseError → Nat
  | .strayCharacter _ offset => offset
  | .misplaced _ _ offset => offset

/-- The text of an error. -/
def message : ParseError → String
  | .strayCharacter c offset =>
    "unexpected character '" ++ String.singleton c ++ "' at offset " ++ toString offset
  | .misplaced expected found offset =>
    "expected " ++ expected.describe ++ ", found " ++ describeFound found ++
      " at offset " ++ toString offset

end ParseError

/-! ## The reader -/

namespace Parser

/-- A refusal: what was expected, and the token that stood there, `none` at the end. -/
structure Refusal where
  expected : Expectation
  token : Option Token
  deriving DecidableEq, Repr

/-- Takes something off the front of the remaining tokens. -/
abbrev Reader (α : Type) := List Token → Except Refusal (α × List Token)

/-- Takes one given lexeme. -/
def lexeme (l : Lexeme) : Reader Unit := fun tokens =>
  match tokens with
  | t :: rest => if t.lexeme = l then .ok ((), rest) else .error ⟨.lexeme l, some t⟩
  | [] => .error ⟨.lexeme l, none⟩

/-- Takes a name. -/
def name : Reader String := fun tokens =>
  match tokens with
  | ⟨.name text, _⟩ :: rest => .ok (text, rest)
  | t :: _ => .error ⟨.name, some t⟩
  | [] => .error ⟨.name, none⟩

/-- The mark that joins the operands of a chain. -/
def mark : Connective → Lexeme
  | .and => .and
  | .or => .or

/-- Goes on with a chain whose part read so far is `left`.  The height is checked as soon as an
operand is joined on, and a tree that is too high is reported at the mark that joins it. -/
def chain (c : Connective) (operand : Reader Formula) (left : Formula) : Reader Formula
  | [] => .ok (left, [])
  | t :: rest =>
    if t.lexeme = mark c then
      match operand rest with
      | .error e => .error e
      | .ok (right, rest) =>
        if (c.join left right).height ≤ maxNesting then chain c operand (c.join left right) rest
        else .error ⟨.shallowerNesting, some t⟩
    else .ok (left, t :: rest)
termination_by maxNesting - left.height
decreasing_by
  rw [Connective.height_join] at *
  omega

/-- Reads operands joined by `&`. -/
def conjunction (operand : Reader Formula) : Reader Formula := fun tokens => do
  let (left, rest) ← operand tokens
  chain .and operand left rest

/-- Reads conjunctions joined by `|`. -/
def disjunction (operand : Reader Formula) : Reader Formula := fun tokens => do
  let (left, rest) ← conjunction operand tokens
  chain .or (conjunction operand) left rest

/-- Yields a formula unless it is too high, which is reported at the token `t`. -/
def ifNotTooHigh (t : Token) (f : Formula) (rest : List Token) :
    Except Refusal (Formula × List Token) :=
  if f.height ≤ maxNesting then .ok (f, rest) else .error ⟨.shallowerNesting, some t⟩

/-- Reads the arguments of a weighted call, from its opening parenthesis on; `call` is the token
of its name. -/
def arguments (c : Connective) (call : Token) (operand : Reader Formula) : Reader Formula :=
  fun tokens => do
    let (_, rest) ← lexeme .opening tokens
    let (θ₁, rest) ← name rest
    let (_, rest) ← lexeme .comma rest
    let (θ₂, rest) ← name rest
    let (_, rest) ← lexeme .comma rest
    let (left, rest) ← disjunction operand rest
    let (_, rest) ← lexeme .comma rest
    let (right, rest) ← disjunction operand rest
    let (_, rest) ← lexeme .closing rest
    ifNotTooHigh call (c.weigh θ₁ θ₂ left right) rest

/-- Whether the next token is an opening parenthesis. -/
def startsWithOpening : List Token → Bool
  | ⟨.opening, _⟩ :: _ => true
  | _ => false

/-- Reads an operand, where at most `levels` more marks `!`, parentheses and calls may be open. -/
def operand (levels : Nat) : Reader Formula
  | [] => .error ⟨.operand, none⟩
  | t :: rest =>
    match t.lexeme with
    | .not =>
      match levels with
      | 0 => .error ⟨.shallowerNesting, some t⟩
      | levels + 1 => do
        let (f, rest) ← operand levels rest
        ifNotTooHigh t (.not f) rest
    | .opening =>
      match levels with
      | 0 => .error ⟨.shallowerNesting, some t⟩
      | levels + 1 => do
        let (f, rest) ← disjunction (operand levels) rest
        let (_, rest) ← lexeme .closing rest
        return (f, rest)
    | .name text =>
      match Connective.ofCallName? text, startsWithOpening rest with
      | some c, true =>
        match levels with
        | 0 => .error ⟨.shallowerNesting, some t⟩
        | levels + 1 => arguments c t (operand levels) rest
      | _, _ => .ok (.atom text, rest)
    | _ => .error ⟨.operand, some t⟩

/-- Reads a formula that uses up all tokens. -/
def formula (tokens : List Token) : Except Refusal Formula := do
  let (f, rest) ← disjunction (operand maxNesting) tokens
  match rest with
  | [] => return f
  | t :: _ => throw ⟨.endOfInput, some t⟩

/-- The error of a refusal in a text whose end mark stands at the byte `stop`. -/
def Refusal.toError (stop : Nat) (r : Refusal) : ParseError :=
  match r.token with
  | some t => .misplaced r.expected (some t.lexeme) t.offset
  | none => .misplaced r.expected none stop

end Parser

/-- The formula of a text.  The whole text is cut into tokens first, so a stray character anywhere
in it is reported before any misplaced token. -/
def parse (text : String) : Except ParseError Formula :=
  match tokenize text with
  | .error stray => .error (.strayCharacter stray.character stray.offset)
  | .ok tokens => (Parser.formula tokens.list).mapError (·.toError tokens.stop)

end GradedQuery
