import GradedQuery.Decimal.Numeral
import GradedQuery.Environment
import GradedQuery.Setting
import GradedQuery.Text.Blank

/-!
# Settings from environment variables

A variable such as `CQQL_MAX_DEPTH` sets the key `max-depth`.  Its value is written in a notation of
its own: truth values, numbers, texts in quotation marks, lists in brackets and tables in braces.
**What does not follow the notation is a text as it stands**, blanks included, so every value
denotes something.
-/

namespace GradedQuery.Variables

/-! ## The notation of values -/

/-- White space in a value. -/
def isSpace (c : Char) : Bool := c = ' ' || c = '\t' || c = '\n' || c = '\x0c' || c = '\r'

/-- Drops white space in front. -/
def skipSpace (cs : List Char) : List Char := cs.dropWhile isSpace

/-- Whether a character ends an unquoted value. -/
def isMark (c : Char) : Bool :=
  c = ',' || c = '\x7b' || c = '\x7d' || c = '[' || c = ']'

/-- Whether a character may stand in an unquoted key. -/
def isKeyChar (c : Char) : Bool := c.isAlphanum || c = '_' || c = '-'

/-- The characters between quotation marks, as they are written, with what follows. -/
def quotedPart : List Char → Option (List Char × List Char)
  | [] => none
  | '"' :: rest => some ([], rest)
  | '\\' :: c :: rest => do
    let (part, rest) ← quotedPart rest
    return ('\\' :: c :: part, rest)
  | c :: rest => do
    let (part, rest) ← quotedPart rest
    return (c :: part, rest)

/-- The character of an escape, whose letter is given, and the number of characters behind it. -/
def escape? (letter : Char) (rest : List Char) : Option (Char × Nat) :=
  let byCodePoint (width : Nat) : Option (Char × Nat) := do
    let digits := rest.take width
    if digits.length < width then none
    let n ← Decimal.natural? 16 digits
    if n.isValidChar then some (Char.ofNat n, width) else none
  match letter with
  | '"' => some ('"', 0)
  | '\\' => some ('\\', 0)
  | 'b' => some ('\x08', 0)
  | 'f' => some ('\x0c', 0)
  | 'n' => some ('\n', 0)
  | 'r' => some ('\r', 0)
  | 't' => some ('\t', 0)
  | 'u' => byCodePoint 4
  | 'U' => byCodePoint 8
  | _ => none

/-- Resolves the escapes between quotation marks, where no control character but the tab may
stand. -/
def unescape : List Char → Option (List Char)
  | [] => some []
  | '\\' :: rest =>
    match rest with
    | [] => none
    | letter :: rest' => do
      let (c, width) ← escape? letter rest'
      return c :: (← unescape (rest'.drop width))
  | c :: rest => do
    if c ≠ '\t' ∧ (c.toNat < 0x20 ∨ c.toNat = 0x7F) then none
    return c :: (← unescape rest)
termination_by cs => cs.length
decreasing_by
  all_goals simp only [List.length_cons, List.length_drop]
  all_goals omega

/-- Reads a text behind its opening quotation mark. -/
def quoted (cs : List Char) : Option (String × List Char) := do
  let (part, rest) ← quotedPart cs
  return (String.ofList (← unescape part), rest)

/-- Reads a key. -/
def key (cs : List Char) : Option (String × List Char) :=
  match cs with
  | '"' :: rest => quoted rest
  | _ =>
    let name := cs.takeWhile isKeyChar
    if name.isEmpty then none else some (String.ofList name, cs.dropWhile isKeyChar)

/-- The value of an unquoted text: a number, or the text itself.  Integers are those of 64 bits;
other numbers have a point. -/
def unquoted (cs : List Char) : Setting :=
  let cs := Text.trimList cs
  let (negative, unsigned) := Decimal.takeSign cs
  let text := String.ofList cs
  if cs.contains '.' && (Decimal.numeral? unsigned).isSome then .real text
  else match Decimal.natural? 10 unsigned with
    | some n =>
      if negative then if n ≤ Decimal.halfWordCount then .integer (-n) else .text text
      else if n < Decimal.wordCount then .integer n else .text text
    | none => .text text

/-- Takes a word off the front of a text. -/
def word? (word : String) (cs : List Char) : Option (List Char) :=
  if word.toList.isPrefixOf cs then some (cs.drop word.length) else none

mutual

/-- Reads a value that starts at the front of a text. -/
def bareValue (fuel : Nat) (cs : List Char) : Option (Setting × List Char) :=
  match fuel with
  | 0 => none
  | fuel + 1 =>
    match word? "true" cs, word? "false" cs with
    | some rest, _ => some (.boolean true, rest)
    | _, some rest => some (.boolean false, rest)
    | _, _ =>
      match cs with
      | '\x7b' :: rest => (entriesFrom fuel rest).map fun (entries, rest) =>
        (.ofEntries entries, rest)
      | '[' :: rest => (itemsFrom fuel rest).map fun (items, rest) => (.list items, rest)
      | '"' :: rest => (quoted rest).map fun (s, rest) => (.text s, rest)
      | '\'' :: c :: '\'' :: rest => some (.letter c, rest)
      | '\'' :: _ => none
      | cs => some (unquoted (cs.takeWhile (!isMark ·)), cs.dropWhile (!isMark ·))

/-- Reads a value and the white space around it. -/
def value (fuel : Nat) (cs : List Char) : Option (Setting × List Char) :=
  match fuel with
  | 0 => none
  | fuel + 1 => (bareValue fuel (skipSpace cs)).map fun (s, rest) => (s, skipSpace rest)

/-- Reads the items of a list up to and with its closing bracket. -/
def itemsFrom (fuel : Nat) (cs : List Char) : Option (List Setting × List Char) :=
  match fuel, cs with
  | 0, _ => none
  | _ + 1, ']' :: rest => some ([], rest)
  | fuel + 1, cs => do
    let (item, rest) ← value fuel cs
    match rest with
    | ',' :: rest => do
      let (items, rest) ← itemsFrom fuel rest
      return (item :: items, rest)
    | ']' :: rest => some ([item], rest)
    | _ => none

/-- Reads the entries of a table up to and with its closing brace. -/
def entriesFrom (fuel : Nat) (cs : List Char) : Option (List (String × Setting) × List Char) :=
  match fuel, cs with
  | 0, _ => none
  | _ + 1, '\x7d' :: rest => some ([], rest)
  | fuel + 1, cs => do
    let (name, rest) ← key (skipSpace cs)
    match skipSpace rest with
    | '=' :: rest => do
      let (s, rest) ← value fuel rest
      match rest with
      | ',' :: rest => do
        let (entries, rest) ← entriesFrom fuel rest
        return ((name, s) :: entries, rest)
      | '\x7d' :: rest => some ([(name, s)], rest)
      | _ => none
    | _ => none

end

/-- The value of a variable. -/
def parseValue (s : String) : Setting :=
  match value (3 * s.length + 3) s.toList with
  | some (setting, []) => setting
  | _ => .text s

/-! ## Names -/

/-- The start of the names of variables that hold settings. -/
def namePrefix : String := "CQQL_"

/-- The keys that are not settings: the directory and the file of the configuration. -/
def reservedKeys : List String := ["dir", "config"]

/-- The key that a variable sets, if it sets one.  Letter case does not matter, and underscores
stand for hyphens. -/
def keyOf? (name : String) : Option String :=
  let lower := name.toList.map Char.toLower
  let start := namePrefix.toList.map Char.toLower
  if start.isPrefixOf lower then
    let rest := lower.drop start.length
    if reservedKeys.contains (String.ofList rest) then none
    else some (String.ofList (Text.trimList (rest.map fun c => if c = '_' then '-' else c)))
  else none

/-- The parts of a key between points.  A key with an empty part leads nowhere. -/
def keyPath? (key : String) : Option (List String) :=
  let parts := key.splitOn "."
  if parts.any (·.isEmpty) then none else some parts

/-- The settings of all variables together. -/
def settings (env : Environment) : Setting :=
  env.bindings.foldl (fun settings (name, v) =>
    match (keyOf? name).bind keyPath? with
    | some path => settings.merge (.nest path (parseValue v))
    | none => settings) (.table [])

end GradedQuery.Variables
