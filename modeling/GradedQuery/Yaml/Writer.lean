import GradedQuery.Yaml.Node

/-!
# Writing YAML

Texts are written without quotation marks where they read back as themselves, and else in single
ones.  A text with line feeds is written as a block of lines.  Double quotation marks, with escapes,
are left for what the other forms cannot express.
-/

namespace GradedQuery.Yaml

/-- How a scalar is written. -/
inductive Style where
  | plain
  | singleQuoted
  | doubleQuoted
  | literal
  deriving DecidableEq, Repr

/-! ## Which style -/

/-- Whether a character ends a line in any of the known ways. -/
def endsLine (c : Char) : Bool :=
  c = '\n' || c = '\r' || c = '\x85' || c = '\u2028' || c = '\u2029'

/-- Whether a character separates in any of the known ways. -/
def separates (c : Char) : Bool := c = ' ' || c = '\t' || endsLine c

/-- Whether a separator, or the end, comes next. -/
def beforeSeparator (rest : List Char) : Bool := rest.head?.all separates

/-- Whether a character shows as it is. -/
def isShown (c : Char) : Bool :=
  let n := c.toNat
  c = '\n' || 0x20 ≤ n && n ≤ 0x7E || 0xA0 ≤ n && n ≤ 0xFFFD && n ≠ 0xFEFF || 0x10000 ≤ n

/-- The characters that may not come first in a scalar without quotation marks. -/
def leadingMarks : List Char :=
  ['#', ',', '[', ']', '\x7b', '\x7d', '&', '*', '!', '|', '>', '\'', '"', '%', '@', '\x60']

/-- Whether a colon before a separator, or a number sign behind one, comes up; `before` is the
character before. -/
def hasInnerMark (before : Char) : List Char → Bool
  | [] => false
  | c :: rest =>
    c = ':' && beforeSeparator rest || c = '#' && separates before || hasInnerMark c rest

/-- Whether a text would be taken for something else than a scalar. -/
def looksLikeMarkup (cs : List Char) : Bool :=
  "---".toList.isPrefixOf cs || "...".toList.isPrefixOf cs ||
    match cs with
    | [] => false
    | c :: rest =>
      leadingMarks.contains c || (c = '?' || c = ':' || c = '-') && beforeSeparator rest ||
        hasInnerMark c rest

/-- Whether a character that satisfies `p` is followed by one that satisfies `q`. -/
def hasPair (p q : Char → Bool) (cs : List Char) : Bool :=
  (cs.zip (cs.drop 1)).any fun (c, d) => p c && q d

/-- Whether a text can stand without quotation marks, whatever it is then read as. -/
def canBePlain (cs : List Char) : Bool :=
  !looksLikeMarkup cs && cs.all (fun c => isShown c && !endsLine c) &&
    cs.head? ≠ some ' ' && cs.getLast? ≠ some ' '

/-- Whether a text can stand in single quotation marks. -/
def canBeSingleQuoted (cs : List Char) : Bool :=
  cs.all isShown && !hasPair endsLine (· = ' ') cs && !hasPair (· = ' ') endsLine cs

/-- Whether a text can be written as a block of lines. -/
def canBeLiteral (cs : List Char) : Bool :=
  cs.all isShown && cs.getLast? ≠ some ' ' && !hasPair (· = ' ') endsLine cs

/-- Whether a text without quotation marks is read as itself.  Digits with a superfluous zero in
front are not relied on. -/
def readsAsItself (s : String) : Bool :=
  match ofPlain s with
  | .text _ => !hasLeadingZero (Decimal.takeSign s.toList).2
  | _ => false

/-- The style in which a text is written. -/
def styleOf (s : String) : Style :=
  let cs := s.toList
  if cs.contains '\n' then if canBeLiteral cs then .literal else .doubleQuoted
  else if readsAsItself s && canBePlain cs then .plain
  else if canBeSingleQuoted cs then .singleQuoted
  else .doubleQuoted

/-! ## The forms -/

/-- So many blank characters. -/
def spaces (n : Nat) : List Char := List.replicate n ' '

/-- The text with every line but the first one, if `inside`, indented.  Empty lines are not. -/
def indentLines (indent : Nat) (inside : Bool) : List Char → List Char
  | [] => []
  | c :: rest =>
    if endsLine c then c :: indentLines indent false rest
    else (if inside then [] else spaces indent) ++ c :: indentLines indent true rest

/-- The letter of an escape. -/
def escapeLetter? (c : Char) : Option Char :=
  [('\x00', '0'), ('\x07', 'a'), ('\x08', 'b'), ('\t', 't'), ('\n', 'n'), ('\x0b', 'v'),
   ('\x0c', 'f'), ('\r', 'r'), ('\x1b', 'e'), ('"', '"'), ('\\', '\\'), ('\x85', 'N'),
   ('\u2028', 'L'), ('\u2029', 'P')].lookup c

/-- So many hexadecimal digits of a number, in upper case. -/
def hexDigits (width n : Nat) : List Char :=
  let digits := (Nat.toDigits 16 n).map Char.toUpper
  List.replicate (width - digits.length) '0' ++ digits

/-- The form of a character in double quotation marks. -/
def escaped (c : Char) : List Char :=
  match escapeLetter? c with
  | some letter => ['\\', letter]
  | none =>
    let n := c.toNat
    if isShown c then [c]
    else if n ≤ 0xFF then '\\' :: 'x' :: hexDigits 2 n
    else if n ≤ 0xFFFF then '\\' :: 'u' :: hexDigits 4 n
    else '\\' :: 'U' :: hexDigits 8 n

/-- The head of a block: the indentation where the text itself starts with a separator, and what
becomes of its last line feeds. -/
def blockHead (cs : List Char) : List Char :=
  let indentation := if cs.head?.any fun c => c = ' ' || endsLine c then ['2'] else []
  let chomping := match cs.reverse with
    | c :: rest => if !endsLine c then ['-'] else if rest.head?.all endsLine then ['+'] else []
    | [] => ['-']
  '|' :: indentation ++ chomping

/-- The form of a text whose further lines are indented by so much. -/
def writeScalar (indent : Nat) (s : String) : String :=
  let cs := s.toList
  String.ofList <| match styleOf s with
    | .plain => cs
    | .singleQuoted =>
      let body := indentLines indent true (cs.flatMap fun c => if c = '\'' then [c, c] else [c])
      let closing := if cs.getLast?.any endsLine then spaces indent else []
      '\'' :: body ++ closing ++ ['\'']
    | .doubleQuoted => '"' :: cs.flatMap escaped ++ ['"']
    | .literal => blockHead cs ++ '\n' :: indentLines indent false cs

/-! ## Entries -/

/-- Ends the last line of a text unless it has been ended. -/
def endLine (s : String) : String :=
  if s.toList.getLast?.any endsLine then s else s ++ "\n"

/-- Whether a key can stand before its colon in one line. -/
def isSimpleKey (key : String) : Bool := !key.toList.any endsLine && key.utf8ByteSize ≤ 128

/-- An entry of a table in a column: the key, a colon, and the value, which brings its own space or
line break along. -/
def writeEntry (column : Nat) (key value : String) : String :=
  let start := String.ofList (spaces column)
  let written := writeScalar (column + 2) key
  if isSimpleKey key then endLine (start ++ written ++ ":" ++ value)
  else endLine (start ++ "? " ++ written) ++ endLine (start ++ ":" ++ value)

/-- The value of an entry that is a text. -/
def textValue (column : Nat) (s : String) : String := " " ++ writeScalar (column + 2) s

/-- The value of an entry that is a list of texts.  Its items start in the column of the entry. -/
def listValue (column : Nat) (items : List String) : String :=
  if items.isEmpty then " []"
  else "\n" ++ String.join (items.map fun item =>
    endLine (String.ofList (spaces column) ++ "- " ++ writeScalar (column + 2) item))

/-- The value of an entry that is a table of texts. -/
def tableValue (column : Nat) (entries : List (String × String)) : String :=
  if entries.isEmpty then " \x7b\x7d"
  else "\n" ++ String.join (entries.map fun (key, value) =>
    writeEntry (column + 2) key (textValue (column + 2) value))

end GradedQuery.Yaml
