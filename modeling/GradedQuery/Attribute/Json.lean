import GradedQuery.Attribute
import GradedQuery.Json.Reader

/-!
# Schemas as JSON values

A schema is an object from attributes to type names.  A type may also be written as an object with
the type name as its only key and `null` under it.
-/

namespace GradedQuery

open Json

/-- Reads the name of a type. -/
def AttributeType.readName : Reader AttributeType := do
  let name ← Json.text "variant identifier"
  match ofName? name with
  | some t => return t
  | none => .refuse (.unknownVariant name ([db, prox, AttributeType.text].map AttributeType.name))

/-- Reads the object form of a type behind the opening brace. -/
def AttributeType.readObject : Reader AttributeType := do
  match ← nextMark? with
  | some '"' => do
    let t ← readName
    colon
    unit
    match ← nextMark? with
    | some '\x7d' => do Reader.drop 1; return t
    | some _ => .refuse .expectedValue
    | none => .refuse .endInObject
  | some '\x7d' => .refuse .expectedValue 1
  | some _ => .refuse .keyMustBeText 1
  | none => .refuse .endInObject 1

/-- Reads a type in either form. -/
def AttributeType.read : Reader AttributeType := do
  match ← nextMark? with
  | some '"' => readName
  | some '\x7b' => do Reader.drop 1; readObject
  | some _ => .refuse .expectedValue 1
  | none => .refuse .endInValue 1

/-- Reads a schema.  Of two types for one attribute the later one counts. -/
def Schema.read : Reader Schema :=
  object "a map" (fun schema attr => do
    colon
    let t ← AttributeType.read
    return OrderedMap.insert schema attr t) ∅

end GradedQuery
