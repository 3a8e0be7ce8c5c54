import GradedQuery.Config
import GradedQuery.Decimal.Numeral
import GradedQuery.Setting

/-!
# The shape of a configuration

A configuration is a table of settings.  `Config.ofSettings` reads one and `Config.toSettings` gives
the settings of one; keys that mean nothing are passed over.  Entries are read in the order of their
keys, so of several mismatches the one under the first key is reported.
-/

namespace GradedQuery

namespace Setting

/-- The outcome of reading a setting. -/
abbrev Shaped := Except Mismatch

/-- Refuses a setting. -/
def refuse {α : Type} (kind : MismatchKind) : Shaped α := .error ⟨kind, []⟩

/-- Reads what stands under a key. -/
def under {α : Type} (key : String) (x : Shaped α) : Shaped α :=
  x.mapError fun m => { m with path := key :: m.path }

/-- Reads a text. -/
def asText : Setting → Shaped String
  | .text s => return s
  | .letter c => return String.singleton c
  | _ => refuse .wrongType

/-- Reads a natural of 64 bits. -/
def asNatural : Setting → Shaped Nat
  | .integer n =>
    if 0 ≤ n ∧ n.natAbs < Decimal.wordCount then return n.toNat
    else if n < 0 ∧ n.natAbs ≤ Decimal.halfWordCount then refuse .outOfRange
    else refuse .wrongType
  | _ => refuse .wrongType

/-- Reads the items of a list, of which so many come before. -/
def asItems {α : Type} (item : Setting → Shaped α) (before : Nat) : List Setting → Shaped (List α)
  | [] => return []
  | s :: rest => do
    let a ← under (toString before) (item s)
    return a :: (← asItems item (before + 1) rest)

/-- Reads a list. -/
def asList {α : Type} (item : Setting → Shaped α) : Setting → Shaped (List α)
  | .list items => asItems item 0 items
  | _ => refuse .wrongType

/-- Reads a table. -/
def asTable {α : Type} (value : Setting → Shaped α) : Setting → Shaped (List (String × α))
  | .table entries => entries.mapM fun (key, s) => return (key, ← under key (value s))
  | _ => refuse .wrongType

/-- Reads a setting that may be missing. -/
def asOptional {α : Type} (value : Setting → Shaped α) : Setting → Shaped (Option α)
  | .null => return none
  | s => return some (← value s)

/-- Reads the name of an attribute type. -/
def asTypeName (name : String) : Shaped AttributeType :=
  match AttributeType.ofName? name with
  | some t => return t
  | none => refuse .unknownChoice

/-- Reads an attribute type: its name, or a table with nothing under its name. -/
def asType : Setting → Shaped AttributeType
  | .text name => asTypeName name
  | .table ((name, value) :: _) =>
    under name do
      let t ← asTypeName name
      match value with
      | .null => return t
      | _ => refuse .wrongType
  | _ => refuse .wrongType

end Setting

namespace Config

open Setting

/-- Reads what stands under the key of a table; `missing` if there is nothing. -/
def field {α : Type} (entries : List (String × Setting)) (key : String) (read : Setting → Shaped α)
    (missing : α) : Shaped α :=
  match OrderedMap.lookup key entries with
  | some s => under key (read s)
  | none => return missing

/-- The configuration of a table of settings. -/
def ofSettings : Setting → Shaped Config
  | .table entries => do
    let attributes ← field entries "attributes" (asTable asType) []
    let data ← field entries "data" (asOptional asText) none
    let maxDepth ← field entries "max-depth" asNatural 50
    let ordinal ← field entries "ordinal" (asList asText) []
    let separator ← field entries "separator" asText defaultSeparator
    return { separator, maxDepth, ordinal, attributes := .ofList attributes, data }
  | _ => refuse .wrongType

/-- The settings of a configuration. -/
def toSettings (config : Config) : Setting :=
  let data := match config.data with
    | some path => [("data", Setting.text path)]
    | none => []
  .ofEntries (data ++
    [("separator", .text config.separator),
     ("max-depth", .integer config.maxDepth),
     ("ordinal", .list (config.ordinal.map .text)),
     ("attributes", .table (config.attributes.toList.map fun (attr, t) => (attr, .text t.name)))])

end Config

end GradedQuery
