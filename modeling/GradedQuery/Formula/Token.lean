import GradedQuery.Text.Blank
import GradedQuery.Text.Utf8

/-!
# Tokens

The text of a formula is cut into names and punctuation marks.  Blank characters separate and are
otherwise ignored; a name extends as far as its characters go.  Each token knows the byte at which
it starts in the UTF-8 form of the text, because that is how messages point at it.  Behind the last
token stands the end mark, which messages can point at as well.
-/

namespace GradedQuery

/-- A word or mark of the query language. -/
inductive Lexeme where
  | name (text : String)
  | and
  | or
  | not
  | opening
  | closing
  | comma
  deriving DecidableEq, Repr, Inhabited

/-- A lexeme and the byte offset at which it starts. -/
structure Token where
  lexeme : Lexeme
  offset : Nat
  deriving DecidableEq, Repr, Inhabited

/-- The tokens of a text, and the byte offset of the end mark behind them. -/
structure Tokens where
  list : List Token
  stop : Nat
  deriving DecidableEq, Repr

/-- Everything that a text is cut into, with its byte offset; the end mark `none` is the last. -/
def Tokens.marks (tokens : Tokens) : List (Option Lexeme × Nat) :=
  tokens.list.map (fun t => (some t.lexeme, t.offset)) ++ [(none, tokens.stop)]

/-- A character that starts no lexeme. -/
structure StrayCharacter where
  character : Char
  offset : Nat
  deriving DecidableEq, Repr

namespace Lexeme

/-- How messages name a lexeme. -/
def describe : Lexeme → String
  | .name text => "identifier '" ++ text ++ "'"
  | .and => "'&'"
  | .or => "'|'"
  | .not => "'!'"
  | .opening => "'('"
  | .closing => "')'"
  | .comma => "','"

/-- The characters of a lexeme in the text. -/
def chars : Lexeme → List Char
  | .name text => text.toList
  | .and => ['&']
  | .or => ['|']
  | .not => ['!']
  | .opening => ['(']
  | .closing => [')']
  | .comma => [',']

/-- The lexeme of a punctuation mark. -/
def ofMark? : Char → Option Lexeme
  | '&' => some .and
  | '|' => some .or
  | '!' => some .not
  | '(' => some .opening
  | ')' => some .closing
  | ',' => some .comma
  | _ => none

end Lexeme

/-- Whether a name can start with this character: an ASCII letter or an underscore. -/
def isNameStart (c : Char) : Bool := c.isAlpha || c = '_'

/-- Whether a name can go on with this character: an ASCII letter or digit or an underscore. -/
def isNameChar (c : Char) : Bool := c.isAlphanum || c = '_'

/-- Cuts the rest of a text, which starts at the byte `offset`, into tokens. -/
def tokenizeFrom (offset : Nat) : List Char → Except StrayCharacter (List Token)
  | [] => .ok []
  | c :: rest =>
    if Text.isBlank c then tokenizeFrom (offset + c.utf8Size) rest
    else match Lexeme.ofMark? c with
      | some mark => do
        let tokens ← tokenizeFrom (offset + c.utf8Size) rest
        return ⟨mark, offset⟩ :: tokens
      | none =>
        if isNameStart c then do
          let name := c :: rest.takeWhile isNameChar
          let tokens ← tokenizeFrom (offset + utf8Length name) (rest.dropWhile isNameChar)
          return ⟨.name (String.ofList name), offset⟩ :: tokens
        else .error ⟨c, offset⟩
termination_by cs => cs.length
decreasing_by
  · simp
  · simp
  · exact Nat.lt_succ_of_le (List.dropWhile_sublist _).length_le

/-- Cuts a text into tokens.  The end mark stands behind its last byte. -/
def tokenize (text : String) : Except StrayCharacter Tokens := do
  let tokens ← tokenizeFrom 0 text.toList
  return ⟨tokens, text.utf8ByteSize⟩

end GradedQuery
