import GradedQuery.OrderedMap

/-!
# Settings

The values that configuration is made of before it is checked: what a file or an environment
variable says, as a tree.  Settings come in layers.  **A later layer replaces what an earlier one
says, except that tables are merged entry by entry** (`Setting.merge`).
-/

namespace GradedQuery

/-- A value of a configuration layer. -/
inductive Setting where
  | null
  | boolean (b : Bool)
  | integer (n : Int)
  /-- A number with a fraction or an exponent, as it is written. -/
  | real (numeral : String)
  | text (s : String)
  /-- A single character that is quoted as such. -/
  | letter (c : Char)
  | list (items : List Setting)
  /-- Entries in ascending order of their keys. -/
  | table (entries : List (String × Setting))
  deriving Repr, Inhabited

namespace Setting

/-- The table of a list of entries; of entries with equal keys the last one counts. -/
def ofEntries (entries : List (String × Setting)) : Setting :=
  .table (OrderedMap.ofList entries).toList

mutual

/-- What two layers say together, the second one being the later. -/
def merge (base later : Setting) : Setting :=
  match later with
  | .table entries =>
    match base with
    | .table old => .table (mergeEntries old entries)
    | _ => .table entries
  | other => other

/-- Puts the entries of a later layer into those of an earlier one. -/
def mergeEntries (base : List (String × Setting)) :
    List (String × Setting) → List (String × Setting)
  | [] => base
  | (key, value) :: rest =>
    let merged := match OrderedMap.lookup key base with
      | some old => merge old value
      | none => value
    mergeEntries (OrderedMap.place key merged base) rest

end

/-- The table that holds a value under a path of keys. -/
def nest (path : List String) (value : Setting) : Setting :=
  path.foldr (fun key inner => .table [(key, inner)]) value

end Setting

end GradedQuery
