import GradedQuery.Decimal.Shortest
import GradedQuery.Text.Quoted
import GradedQuery.Text.Utf8

/-!
# Refusals of JSON texts

Why a JSON text, or a value in it, is refused, and where.  While a text is read, the place is kept
as what is left of the text; `Refusal.inText` counts from it the bytes read.
-/

namespace GradedQuery.Json

/-- How numbers are laid out in JSON: positionally from `0.00001` up to below `10 ^ 16`. -/
def numberLayout : Decimal.Layout := ⟨-5, 16⟩

/-- The text of a finite number; none for the others, which JSON has no numbers for. -/
def writeNumber? (x : Float) : Option String :=
  match Decimal.decode x.toBits with
  | .finite negative b => some (Decimal.writeShortest numberLayout negative b)
  | _ => none

/-- What stands where another kind of value was expected. -/
inductive Shape where
  | null
  | boolean (b : Bool)
  | integer (n : Int)
  | float (x : Float)
  | text (s : String)
  | sequence
  | map

/-- How messages name a value. -/
def Shape.describe : Shape → String
  | .null => "null"
  | .boolean b => "boolean `" ++ toString b ++ "`"
  | .integer n => "integer `" ++ toString n ++ "`"
  | .float x => "floating point `" ++ (writeNumber? x).getD "" ++ "`"
  | .text s => "string " ++ Text.quote s
  | .sequence => "sequence"
  | .map => "map"

/-- Why a text is refused. -/
inductive Cause where
  /-- The text ends inside something. -/
  | endInValue | endInList | endInObject | endInString
  | expectedColon
  | expectedListCommaOrEnd
  | expectedObjectCommaOrEnd
  /-- A misspelt `null`, `true` or `false`. -/
  | expectedIdent
  | expectedValue
  | invalidEscape
  | invalidNumber
  | numberOutOfRange
  | controlCharacter
  | keyMustBeText
  /-- A surrogate whose partner is missing or wrong. -/
  | loneSurrogate
  | missingSurrogate
  | trailingComma
  | trailingCharacters
  /-- A value of another kind. -/
  | invalidType (found : Shape) (expected : String)
  | invalidLength (length : Nat) (expected : String)
  | missingField (name : String)
  | duplicateField (name : String)
  | unknownVariant (name : String) (known : List String)

/-- The text of a cause. -/
def Cause.message : Cause → String
  | .endInValue => "EOF while parsing a value"
  | .endInList => "EOF while parsing a list"
  | .endInObject => "EOF while parsing an object"
  | .endInString => "EOF while parsing a string"
  | .expectedColon => "expected `:`"
  | .expectedListCommaOrEnd => "expected `,` or `]`"
  | .expectedObjectCommaOrEnd => "expected `,` or `\x7d`"
  | .expectedIdent => "expected ident"
  | .expectedValue => "expected value"
  | .invalidEscape => "invalid escape"
  | .invalidNumber => "invalid number"
  | .numberOutOfRange => "number out of range"
  | .controlCharacter => "control character (\\u0000-\\u001F) found while parsing a string"
  | .keyMustBeText => "key must be a string"
  | .loneSurrogate => "lone leading surrogate in hex escape"
  | .missingSurrogate => "unexpected end of hex escape"
  | .trailingComma => "trailing comma"
  | .trailingCharacters => "trailing characters"
  | .invalidType found expected => "invalid type: " ++ found.describe ++ ", expected " ++ expected
  | .invalidLength length expected =>
    "invalid length " ++ toString length ++ ", expected " ++ expected
  | .missingField name => "missing field `" ++ name ++ "`"
  | .duplicateField name => "duplicate field `" ++ name ++ "`"
  | .unknownVariant name known =>
    "unknown variant `" ++ name ++ "`, expected one of " ++
      ", ".intercalate (known.map fun k => "`" ++ k ++ "`")

/-- A cause, what was left of the text when it was found, and how many bytes of that are counted
as read. -/
structure Refusal where
  cause : Cause
  rest : List Char
  ahead : Nat

/-- A cause and its place: how many bytes of the text have been read. -/
structure Fault where
  cause : Cause
  column : Nat

/-- The text of a fault, with its place. -/
def Fault.message (fault : Fault) : String :=
  fault.cause.message ++ " at line 1 column " ++ toString fault.column

/-- A refusal as the fault of a text. -/
def Refusal.inText (text : List Char) (r : Refusal) : Fault :=
  ⟨r.cause, utf8Length text - utf8Length r.rest + min r.ahead (utf8Length r.rest)⟩

end GradedQuery.Json
