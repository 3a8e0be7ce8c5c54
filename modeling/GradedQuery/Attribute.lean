import GradedQuery.OrderedMap

/-!
# Attributes

An atom such as `price__low` speaks about one bucket of the attribute `price`.  Which attribute an
atom belongs to is decided by a *naming*, any function on atom names; the usual one splits at the
first occurrence of a separator (`attributeBy`).  A *schema* says how the scores of an attribute
are to be read.
-/

namespace GradedQuery

/-! ## Naming -/

/-- Assigns to each atom name the attribute that it describes. -/
abbrev Naming := String → String

/-- The part of a text before the first occurrence of `sep`, if it occurs. -/
def beforeFirst? (sep : List Char) : List Char → Option (List Char)
  | [] => if sep.isEmpty then some [] else none
  | c :: rest =>
    if sep.isPrefixOf (c :: rest) then some [] else (beforeFirst? sep rest).map (c :: ·)

/-- Splits atom names at the first occurrence of `separator`.  An atom without it is its own
attribute, and so is every atom when the separator is empty. -/
def attributeBy (separator : String) : Naming := fun atom =>
  if separator.isEmpty then atom
  else match beforeFirst? separator.toList atom.toList with
    | some before => String.ofList before
    | none => atom

/-- The separator between attribute and bucket unless another one is configured. -/
def defaultSeparator : String := "__"

/-- The naming unless another separator is configured. -/
def defaultNaming : Naming := attributeBy defaultSeparator

/-! ## Types -/

/-- How the scores of an attribute are read. -/
inductive AttributeType where
  /-- A database fact: its scores are forced to 0 or 1. -/
  | db
  /-- The proximity to an ordinal bucket, in [0, 1]. -/
  | prox
  /-- The similarity of a text, in [0, 1]. -/
  | text
  deriving DecidableEq, Repr, Inhabited

namespace AttributeType

/-- The type of an attribute that the schema does not list. -/
def default : AttributeType := .prox

/-- The name by which a type is written. -/
def name : AttributeType → String
  | .db => "db"
  | .prox => "prox"
  | .text => "text"

/-- The type of a name. -/
def ofName? (name : String) : Option AttributeType :=
  [db, prox, text].find? (·.name = name)

theorem ofName?_name (t : AttributeType) : ofName? t.name = some t := by cases t <;> decide

/-- The message for a text that names no type. -/
def unknownMessage (name : String) : String :=
  "unknown attribute type '" ++ name ++ "' (expected db, prox or text)"

end AttributeType

/-! ## Schemas -/

/-- The types of the listed attributes. -/
abbrev Schema := OrderedMap String AttributeType

/-- The type of an attribute; unlisted attributes have the default type. -/
def Schema.typeOf (schema : Schema) (attr : String) : AttributeType :=
  (schema.get? attr).getD .default

end GradedQuery
