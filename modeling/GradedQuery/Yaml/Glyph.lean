/-!
# Characters and their places

YAML tells by columns which lines belong together, so a document is read from characters that know
their line and column.  The line breaks of all systems are made line feeds beforehand; only the two
separators of Unicode keep their own characters.
-/

namespace GradedQuery.Yaml

/-- A character with its place. -/
structure Glyph where
  char : Char
  line : Nat
  column : Nat
  /-- The number of bytes in front of it. -/
  offset : Nat
  /-- Whether only blank characters stand before it in its line. -/
  leads : Bool
  deriving DecidableEq, Repr

/-- Whether a character ends a line. -/
def isBreak (c : Char) : Bool := c = '\n' || c = '\u2028' || c = '\u2029'

/-- Whether a character separates within a line. -/
def isBlank (c : Char) : Bool := c = ' ' || c = '\t'

/-- Whether a character separates at all. -/
def isSeparator (c : Char) : Bool := isBlank c || isBreak c

/-- Makes line feeds of the other ways to break a line. -/
def unifyBreaks : List Char → List Char
  | '\r' :: '\n' :: rest => '\n' :: unifyBreaks rest
  | '\r' :: rest => '\n' :: unifyBreaks rest
  | '\x85' :: rest => '\n' :: unifyBreaks rest
  | c :: rest => c :: unifyBreaks rest
  | [] => []

/-- The place behind a character. -/
def Glyph.next (g : Glyph) (c : Char) : Glyph :=
  let offset := g.offset + g.char.utf8Size
  if isBreak g.char then ⟨c, g.line + 1, 0, offset, true⟩
  else ⟨c, g.line, g.column + 1, offset, g.leads && isBlank g.char⟩

/-- Gives each character its place behind the one before. -/
def locateBehind (g : Glyph) : List Char → List Glyph
  | [] => []
  | c :: rest => g.next c :: locateBehind (g.next c) rest

/-- Gives each character of a document its place. -/
def locateAll : List Char → List Glyph
  | [] => []
  | c :: rest => ⟨c, 0, 0, 0, true⟩ :: locateBehind ⟨c, 0, 0, 0, true⟩ rest

/-- The characters of a text with their places.  A byte order mark in front is no character of the
document, and a second one is a space. -/
def locate (text : String) : List Glyph :=
  locateAll (unifyBreaks (match text.toList with
    | '\uFEFF' :: '\uFEFF' :: rest => ' ' :: rest
    | '\uFEFF' :: rest => rest
    | cs => cs))

/-- Whether a separator, or the end, follows the first character. -/
def isolated : List Glyph → Bool
  | _ :: g :: _ => isSeparator g.char
  | _ => true

/-- Whether the text starts with this character and a separator behind it. -/
def startsWithMark (mark : Char) (gs : List Glyph) : Bool :=
  gs.head?.any (·.char = mark) && isolated gs

/-- Whether a line of this marker starts here: three times the same character, then a separator. -/
def atMarker (mark : Char) (gs : List Glyph) : Bool :=
  match gs with
  | a :: b :: c :: rest =>
    a.column = 0 && a.char = mark && b.char = mark && c.char = mark &&
      rest.head?.all (isSeparator ·.char)
  | _ => false

/-- Whether a document starts or ends here. -/
def atDocumentBound (gs : List Glyph) : Bool := atMarker '-' gs || atMarker '.' gs

/-! ## Gaps within scalars

A scalar may go on in the next line.  A single line break between its parts counts as a space, and
of several ones the first does not count. -/

/-- The separators between two parts of a scalar. -/
inductive Gap where
  /-- Within a line. -/
  | blanks (cs : List Char)
  /-- Over one or more line breaks, of which the first may have been escaped. -/
  | broken (first : Option Char) (more : List Char)

namespace Gap

/-- Adds a separator; blank characters at the ends of lines do not count. -/
def add (c : Char) : Gap → Gap
  | .blanks cs => if isBreak c then .broken (some c) [] else .blanks (cs ++ [c])
  | .broken first more => .broken first (if isBreak c then more ++ [c] else more)

/-- What a gap stands for. -/
def text : Gap → List Char
  | .blanks cs => cs
  | .broken (some '\n') [] => [' ']
  | .broken (some '\n') more => more
  | .broken first more => first.toList ++ more

/-- Whether there are no separators. -/
def isEmpty : Gap → Bool
  | .blanks [] => true
  | _ => false

/-- Whether a line ends within a gap. -/
def isBroken : Gap → Bool
  | .blanks _ => false
  | .broken .. => true

end Gap

end GradedQuery.Yaml
