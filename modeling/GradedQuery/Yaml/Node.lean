import GradedQuery.Decimal.Numeral
import GradedQuery.Decimal.Read
import GradedQuery.Setting

/-!
# Nodes of a YAML document

A document is a tree of lists and tables over scalars.  A scalar in quotation marks is a text; one
without them may also denote nothing, a truth value or a number, which `Setting.ofPlain` decides
from its characters alone.
-/

namespace GradedQuery.Yaml

/-- A node of a document. -/
inductive Node where
  /-- A scalar without quotation marks; the empty one stands where nothing is written. -/
  | plain (text : String)
  /-- A scalar in quotation marks or in block form. -/
  | quoted (text : String)
  | list (items : List Node)
  | table (entries : List (Node × Node))
  deriving Repr, Inhabited

/-- The text of a scalar, which is what a key needs to be. -/
def Node.scalarText? : Node → Option String
  | .plain text | .quoted text => some text
  | _ => none

/-! ## Plain scalars -/

/-- The names of nothing. -/
def nullNames : List String := ["", "~", "null", "Null", "NULL"]

/-- The names of the truth values. -/
def booleanNames : List (String × Bool) :=
  [("true", true), ("True", true), ("TRUE", true),
   ("false", false), ("False", false), ("FALSE", false)]

/-- Whether a numeral has a superfluous zero in front, which makes it a text. -/
def hasLeadingZero (digits : List Char) : Bool :=
  match digits with
  | '0' :: _ :: _ => digits.all Char.isDigit
  | _ => false

/-- The magnitude of an integer: decimal, or with `0x`, `0o` or `0b` in front. -/
def magnitude? : List Char → Option Nat
  | '0' :: 'x' :: rest => Decimal.natural? 16 rest
  | '0' :: 'o' :: rest => Decimal.natural? 8 rest
  | '0' :: 'b' :: rest => Decimal.natural? 2 rest
  | cs => if hasLeadingZero cs then none else Decimal.natural? 10 cs

/-- The integer of a plain scalar.  One beyond 128 bits is none. -/
def integer? (cs : List Char) : Option Int :=
  (Decimal.signedBy? magnitude? cs).filter (·.natAbs < Decimal.wordCount * Decimal.wordCount)

/-- The names of the numbers that are not finite. -/
def specialNumbers : List String :=
  [".inf", ".Inf", ".INF", "+.inf", "+.Inf", "+.INF", "-.inf", "-.Inf", "-.INF",
   ".nan", ".NaN", ".NAN"]

/-- Whether a plain scalar is a number with a fraction or an exponent. -/
def isReal (cs : List Char) : Bool :=
  let unsigned := (Decimal.takeSign cs).2
  specialNumbers.contains (String.ofList cs) ||
    !hasLeadingZero unsigned &&
      match Decimal.numeral? unsigned with
      | some (digits, exponent) => (Decimal.nearest? digits exponent).isSome
      | none => false

/-- The value of a plain scalar. -/
def ofPlain (text : String) : Setting :=
  if nullNames.contains text then .null
  else match booleanNames.lookup text with
    | some b => .boolean b
    | none =>
      match integer? text.toList with
      | some n => .integer n
      | none => if isReal text.toList then .real text else .text text

/-! ## Values -/

mutual

/-- The value of a node; none if a key is no scalar. -/
def Node.toSetting? : Node → Option Setting
  | .plain text => some (ofPlain text)
  | .quoted text => some (.text text)
  | .list items => do return .list (← settings? items)
  | .table entries => do return .ofEntries (← settingEntries? entries)

/-- The values of the nodes of a list. -/
def settings? : List Node → Option (List Setting)
  | [] => some []
  | node :: rest => do return (← node.toSetting?) :: (← settings? rest)

/-- The entries of a table. -/
def settingEntries? : List (Node × Node) → Option (List (String × Setting))
  | [] => some []
  | (key, value) :: rest => do
    return (← key.scalarText?, ← value.toSetting?) :: (← settingEntries? rest)

end

end GradedQuery.Yaml
