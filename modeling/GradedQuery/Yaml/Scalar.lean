import GradedQuery.Decimal.Numeral
import GradedQuery.Yaml.Glyph

/-!
# Reading scalars

A scalar stands without quotation marks, in single or in double ones, or as a block of lines.  Each
reader here gives the scalar's text and what is left of the document.
-/

namespace GradedQuery.Yaml

/-- Why a text is no document, or none with settings. -/
inductive Fault where
  /-- Something stands where it may not. -/
  | misplaced
  /-- The text ends within quotation marks or brackets. -/
  | unclosed
  /-- No escape begins so. -/
  | unknownEscape
  /-- A character that may not occur in a document. -/
  | controlCharacter
  /-- A second document follows. -/
  | severalDocuments
  /-- The document is not a table. -/
  | noTable
  /-- A key is a list or a table. -/
  | keyIsNoScalar
  /-- Lists and tables are nested too deep. -/
  | nestedTooDeep
  deriving DecidableEq, Repr

/-- The text of a fault. -/
def Fault.message : Fault → String
  | .misplaced => "unexpected content"
  | .unclosed => "unexpected end of the document"
  | .unknownEscape => "unknown escape character"
  | .controlCharacter => "control characters are not allowed"
  | .severalDocuments => "more than one document"
  | .noTable => "the document is no table"
  | .keyIsNoScalar => "a key is no scalar"
  | .nestedTooDeep => "nesting limit exceeded"

/-- The outcome of reading, for a part of a document along with what is left of it. -/
abbrev Outcome := Except Fault

/-! ## Between the parts of a document -/

/-- Skips separators and comments.  A tab character separates only where `tabs` says so: everywhere
in flow style, and in block style only before the first line break.  **Elsewhere nothing can go on
behind it**, not even the end of the document. -/
def skipGap (flow tabs : Bool) (inComment : Bool := false) : List Glyph → Outcome (List Glyph)
  | [] => .ok []
  | g :: rest =>
    if isBreak g.char then skipGap flow flow false rest
    else if inComment || g.char = ' ' || (tabs && g.char = '\t') then
      skipGap flow tabs inComment rest
    else if g.char = '#' then skipGap flow tabs true rest
    else if g.char = '\t' then .error .misplaced
    else .ok (g :: rest)

/-! ## In quotation marks -/

/-- Reads on in single quotation marks, in which only the mark itself is written differently:
twice. -/
def singleQuoted (gap : Gap) (read : List Char) : List Glyph → Outcome (String × List Glyph)
  | [] => .error .unclosed
  | g :: rest =>
    if atDocumentBound (g :: rest) then .error .misplaced
    else if isSeparator g.char then singleQuoted (gap.add g.char) read rest
    else
      let read := gap.text.reverse ++ read
      if g.char = '\'' then
        match rest with
        | h :: rest' =>
          if h.char = '\'' then singleQuoted (.blanks []) ('\'' :: read) rest'
          else .ok (String.ofList read.reverse, h :: rest')
        | [] => .ok (String.ofList read.reverse, [])
      else singleQuoted (.blanks []) (g.char :: read) rest

/-- The escapes of a single letter. -/
def letterEscapes : List (Char × Char) :=
  [('0', '\x00'), ('a', '\x07'), ('b', '\x08'), ('t', '\t'), ('\t', '\t'), ('n', '\n'),
   ('v', '\x0b'), ('f', '\x0c'), ('r', '\r'), ('e', '\x1b'), (' ', ' '), ('"', '"'), ('/', '/'),
   ('\\', '\\'), ('N', '\x85'), ('_', '\xa0'), ('L', '\u2028'), ('P', '\u2029')]

/-- The number of hexadecimal digits of an escape by code point. -/
def escapeWidth? : Char → Option Nat
  | 'x' => some 2
  | 'u' => some 4
  | 'U' => some 8
  | _ => none

/-- The character of an escape, whose letter is given, and the number of characters behind it. -/
def escape? (letter : Char) (rest : List Glyph) : Option (Char × Nat) :=
  match letterEscapes.lookup letter with
  | some c => some (c, 0)
  | none => do
    let width ← escapeWidth? letter
    let digits := (rest.take width).map Glyph.char
    if digits.length < width then none
    let n ← Decimal.natural? 16 digits
    if n.isValidChar then some (Char.ofNat n, width) else none

/-- Reads on in double quotation marks.  A backslash starts an escape, also of a line break. -/
def doubleQuoted (gap : Gap) (read : List Char) : List Glyph → Outcome (String × List Glyph)
  | [] => .error .unclosed
  | g :: rest =>
    if atDocumentBound (g :: rest) then .error .misplaced
    else if isSeparator g.char then doubleQuoted (gap.add g.char) read rest
    else
      let read := gap.text.reverse ++ read
      if g.char = '"' then .ok (String.ofList read.reverse, rest)
      else if g.char = '\\' then
        match rest with
        | [] => .error .unclosed
        | h :: rest' =>
          if isBreak h.char then doubleQuoted (.broken none []) read rest'
          else match escape? h.char rest' with
            | some (c, width) => doubleQuoted (.blanks []) (c :: read) (rest'.drop width)
            | none => .error .unknownEscape
      else doubleQuoted (.blanks []) (g.char :: read) rest
termination_by gs => gs.length
decreasing_by
  all_goals simp only [List.length_cons, List.length_drop]
  all_goals omega

/-! ## Without quotation marks -/

/-- Whether a character delimits in flow style. -/
def isFlowMark (c : Char) : Bool :=
  c = ',' || c = '[' || c = ']' || c = '\x7b' || c = '\x7d'

/-- The characters with a meaning of their own at the start of a node. -/
def indicators : List Char :=
  ['-', '?', ':', ',', '[', ']', '\x7b', '\x7d', '#', '&', '*', '!', '|', '>', '\'', '"', '%', '@',
   '\x60']

/-- Whether a scalar without quotation marks can start here. -/
def startsPlain (flow : Bool) : List Glyph → Bool
  | [] => false
  | g :: rest =>
    !isSeparator g.char && !indicators.contains g.char ||
      (g.char = '-' || !flow && (g.char = '?' || g.char = ':')) && !isolated (g :: rest)

/-- Reads on without quotation marks.  The scalar ends before a colon with a separator behind it,
before a comment, before a mark of the flow style in it, and in block style before a line that is
not indented by at least `least` columns.  In both styles no tab character belongs to this
indentation. -/
def plain (flow : Bool) (least : Int) (gap : Gap) (read : List Char) :
    List Glyph → Outcome (String × List Glyph)
  | [] => .ok (String.ofList read.reverse, [])
  | g :: rest =>
    let ended : Outcome (String × List Glyph) := .ok (String.ofList read.reverse, g :: rest)
    if isSeparator g.char then
      if gap.isBroken && g.char = '\t' && g.column < least then .error .misplaced
      else plain flow least (gap.add g.char) read rest
    else if gap.isBroken && !flow && g.column < least then ended
    else if !gap.isEmpty && (g.char = '#' || atDocumentBound (g :: rest)) then ended
    else if g.char = ':' && isolated (g :: rest) then ended
    else if flow && isFlowMark g.char then ended
    else if flow && g.char = ':' && rest.head?.any fun h => isFlowMark h.char || h.char = '?' then
      .error .misplaced
    else plain flow least (.blanks []) (g.char :: (gap.text.reverse ++ read)) rest

/-! ## As blocks of lines -/

/-- What becomes of the line breaks at the end of a block. -/
inductive Chomping where
  | strip
  | clip
  | keep
  deriving DecidableEq

/-- The head of a block: chomping and indentation, each if it is given. -/
structure BlockHead where
  chomping : Chomping := .clip
  indentation : Option Nat := none

/-- The chomping that a mark stands for. -/
def chompingOf? (g : Glyph) : Option Chomping :=
  if g.char = '+' then some .keep else if g.char = '-' then some .strip else none

/-- The indentation that a digit stands for. -/
def indentationOf? (g : Glyph) : Option Nat :=
  if '1' ≤ g.char ∧ g.char ≤ '9' then some (g.char.toNat - '0'.toNat) else none

/-- Takes the marks of a block's head: one of each kind at most, in either order. -/
def blockMarks : List Glyph → BlockHead × List Glyph
  | [] => ({}, [])
  | g :: rest =>
    match chompingOf? g, indentationOf? g with
    | some chomping, _ =>
      match rest.head?.bind indentationOf? with
      | some n => (⟨chomping, some n⟩, rest.drop 1)
      | none => (⟨chomping, none⟩, rest)
    | none, some n =>
      match rest.head?.bind chompingOf? with
      | some chomping => (⟨chomping, some n⟩, rest.drop 1)
      | none => (⟨.clip, some n⟩, rest)
    | none, none => ({}, g :: rest)

/-- Skips the rest of the line in which a block's head stands. -/
def endOfHead (gs : List Glyph) : Outcome (List Glyph) :=
  match gs.dropWhile (isBlank ·.char) with
  | [] => .ok []
  | g :: rest =>
    if isBreak g.char then .ok rest
    else if g.char = '#' then .ok ((rest.dropWhile (!isBreak ·.char)).drop 1)
    else .error .misplaced

/-- Skips empty lines and the indentation behind them, up to the given column if there is one.
Gives the breaks of the lines, the greatest column that was reached, and what is left.  No tab
character may stand within the indentation. -/
def emptyLines (indentation : Option Nat) (breaks : List Char) (greatest : Nat) :
    List Glyph → Outcome (List Char × Nat × List Glyph)
  | [] => .ok (breaks, greatest, [])
  | g :: rest =>
    let within := indentation.all (g.column < ·)
    if g.char = ' ' && within then
      emptyLines indentation breaks (max greatest (g.column + 1)) rest
    else if g.char = '\t' && within then .error .misplaced
    else if isBreak g.char then emptyLines indentation (breaks ++ [g.char]) greatest rest
    else .ok (breaks, greatest, g :: rest)

/-- What stands between two lines of a block: the break behind the first one, and further ones.  In
a folded block the break counts as a space unless one of the lines starts with a blank. -/
def betweenLines (folded indentedBefore indentedAfter : Bool) (first : List Char)
    (more : List Char) : List Char :=
  if folded && first = ['\n'] && !indentedBefore && !indentedAfter then
    if more.isEmpty then [' '] else more
  else first ++ more

/-- Reads the lines of a block that are indented to a column. -/
def blockLines (fuel : Nat) (folded : Bool) (chomping : Chomping) (column : Nat)
    (indentedBefore : Bool) (first more read : List Char) (gs : List Glyph) :
    Outcome (String × List Glyph) :=
  let ended : Outcome (String × List Glyph) :=
    let tail := match chomping with
      | .strip => []
      | .clip => first
      | .keep => first ++ more
    .ok (String.ofList (read ++ tail), gs)
  match fuel, gs with
  | fuel + 1, g :: _ =>
    if g.column = column then
      let indented := isBlank g.char
      let line := (gs.takeWhile (!isBreak ·.char)).map Glyph.char
      let rest := gs.dropWhile (!isBreak ·.char)
      match emptyLines (some column) [] 0 (rest.drop 1) with
      | .error e => .error e
      | .ok (breaks, _, rest') =>
        blockLines fuel folded chomping column indented ((rest.take 1).map Glyph.char) breaks
          (read ++ betweenLines folded indentedBefore indented first more ++ line) rest'
    else ended
  | _, _ => ended

/-- Reads a block behind its mark.  It belongs to a collection in the column `parent`, from which
its indentation is counted if that is given. -/
def block (folded : Bool) (parent : Int) (gs : List Glyph) : Outcome (String × List Glyph) := do
  let (head, rest) := blockMarks gs
  let body ← endOfHead rest
  let given := head.indentation.map fun n => (max parent 0).toNat + n
  let (breaks, greatest, lines) ← emptyLines given [] 0 body
  let column := given.getD (max greatest (max (parent + 1) 1).toNat)
  blockLines lines.length folded head.chomping column false [] breaks [] lines

end GradedQuery.Yaml
