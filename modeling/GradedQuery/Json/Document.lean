import GradedQuery.Json.Refusal

/-!
# JSON documents

The values that are written as JSON, compactly or indented.  Both forms escape as little as
possible in texts and write numbers with the fewest digits that read back; a number that JSON
cannot express becomes `null`.
-/

namespace GradedQuery.Json

/-- A value to be written. -/
inductive Document where
  | null
  | boolean (b : Bool)
  | natural (n : Nat)
  | number (x : Float)
  | text (s : String)
  | list (items : List Document)
  | object (entries : List (String × Document))

/-- The form of a character between quotation marks. -/
def writeChar (c : Char) : List Char :=
  match c with
  | '"' => ['\\', '"']
  | '\\' => ['\\', '\\']
  | '\x08' => ['\\', 'b']
  | '\x0c' => ['\\', 'f']
  | '\n' => ['\\', 'n']
  | '\r' => ['\\', 'r']
  | '\t' => ['\\', 't']
  | c =>
    if c.toNat < 0x20 then
      ['\\', 'u', '0', '0', Nat.digitChar (c.toNat / 16), Nat.digitChar (c.toNat % 16)]
    else [c]

/-- A text between quotation marks. -/
def writeText (s : String) : String :=
  "\"" ++ String.ofList (s.toList.flatMap writeChar) ++ "\""

/-- A number, or `null` for one that is not finite. -/
def writeNumber (x : Float) : String := (writeNumber? x).getD "null"

namespace Document

/-! ## Without white space -/

mutual

/-- The compact form of a value. -/
def compact : Document → String
  | .null => "null"
  | .boolean b => toString b
  | .natural n => toString n
  | .number x => writeNumber x
  | .text s => writeText s
  | .list items => "[" ++ ",".intercalate (compactItems items) ++ "]"
  | .object entries => "\x7b" ++ ",".intercalate (compactEntries entries) ++ "\x7d"

/-- The compact forms of the items of a list. -/
def compactItems : List Document → List String
  | [] => []
  | item :: rest => item.compact :: compactItems rest

/-- The compact forms of the entries of an object. -/
def compactEntries : List (String × Document) → List String
  | [] => []
  | (key, value) :: rest => (writeText key ++ ":" ++ value.compact) :: compactEntries rest

end

/-! ## Indented -/

/-- A line break with the indentation of a depth. -/
def lineBreak (depth : Nat) : String := "\n" ++ String.ofList (List.replicate (2 * depth) ' ')

/-- Bracketed parts on lines of their own; nothing between the brackets where there are none. -/
def bracketed (depth : Nat) (opening : String) (parts : List String) (closing : String) : String :=
  if parts.isEmpty then opening ++ closing
  else opening ++ lineBreak (depth + 1) ++ ("," ++ lineBreak (depth + 1)).intercalate parts ++
    lineBreak depth ++ closing

mutual

/-- The indented form of a value at a depth. -/
def indentedAt (depth : Nat) : Document → String
  | .list items => bracketed depth "[" (indentedItems (depth + 1) items) "]"
  | .object entries => bracketed depth "\x7b" (indentedEntries (depth + 1) entries) "\x7d"
  | scalar => scalar.compact

/-- The indented forms of the items of a list. -/
def indentedItems (depth : Nat) : List Document → List String
  | [] => []
  | item :: rest => indentedAt depth item :: indentedItems depth rest

/-- The indented forms of the entries of an object. -/
def indentedEntries (depth : Nat) : List (String × Document) → List String
  | [] => []
  | (key, value) :: rest =>
    (writeText key ++ ": " ++ indentedAt depth value) :: indentedEntries depth rest

end

/-- The indented form of a value. -/
def indented (d : Document) : String := indentedAt 0 d

end Document

end GradedQuery.Json
