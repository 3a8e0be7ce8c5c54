import GradedQuery.Config
import GradedQuery.Dataset
import GradedQuery.Json.Document
import GradedQuery.QueryError

/-!
# Reports

What a run leaves behind: an exit code and two texts.  A failure is told together with what it
happened in, from the outside in, and errors of the query language also with their kind.
-/

namespace GradedQuery.CommandLine

/-- What a run leaves behind. -/
structure Report where
  code : Nat := 0
  /-- The text for the standard output. -/
  output : String := ""
  /-- The text for the standard error output. -/
  errors : String := ""
  deriving DecidableEq, Repr

/-! ## Failures -/

/-- Why a command fails. -/
structure Failure where
  /-- The kind of an error of the query language. -/
  kind : Option String := none
  /-- The error and what underlies it, from the outside in. -/
  causes : List String
  deriving DecidableEq, Repr

namespace Failure

/-- A failure of one cause. -/
def ofMessage (message : String) : Failure := { causes := [message] }

/-- The failure of a file operation. -/
def ofFileError (e : FileError) : Failure := .ofMessage e.message

/-- The failure of the configuration. -/
def ofConfigError (e : ConfigError) : Failure := { causes := e.message :: e.cause?.toList }

/-- The failure of a dataset. -/
def ofDatasetError (e : DatasetError Json.Fault) : Failure :=
  { causes := [e.message Json.Fault.message, e.cause Json.Fault.message] }

/-- The failure of a query. -/
def ofQueryError (e : QueryError) : Failure := { kind := some e.kind, causes := [e.message] }

/-- Says what a failure happened in. -/
def inContext (context : String) (f : Failure) : Failure := { f with causes := context :: f.causes }

/-- The text of a failure. -/
def message (f : Failure) : String := ": ".intercalate f.causes

/-- A failure as it is told: as a line, or as a JSON value. -/
def tell (json : Bool) (f : Failure) : String :=
  if json then
    let kind := match f.kind with
      | some kind => .text kind
      | none => .null
    (Json.Document.object [("error", .text f.message), ("kind", kind)]).indented ++ "\n"
  else "Error: " ++ (f.kind.map (· ++ ": ")).getD "" ++ f.message ++ "\n"

end Failure

/-! ## Tables -/

/-- A text filled up with blank characters to a width. -/
def padTo (width : Nat) (s : String) : String :=
  s ++ String.ofList (List.replicate (width - s.length) ' ')

/-- The greatest length of some texts. -/
def greatestLength (texts : List String) : Nat := (texts.map String.length).foldl max 0

/-- The width of every column: that of its longest cell. -/
def columnWidths : List (List String) → List Nat
  | [] => []
  | row :: rows =>
    row.mapIdx fun i _ => greatestLength ((row :: rows).map fun r => r[i]?.getD "")

/-- A line of a table. -/
def tableLine (widths : List Nat) (row : List String) : String :=
  "  ".intercalate (List.zipWith padTo widths row) ++ "\n"

/-- A table with a line of hyphens below its head. -/
def table (head : List String) (rows : List (List String)) : String :=
  let widths := columnWidths (head :: rows)
  let hyphens := widths.map fun width => String.ofList (List.replicate width '-')
  String.join ((head :: hyphens :: rows).map (tableLine widths))

/-- A text with a line break behind it. -/
def asLine (s : String) : String := s ++ "\n"

/-- A JSON value as an indented text. -/
def jsonText (d : Json.Document) : String := asLine d.indented

/-- A list of texts as a JSON value. -/
def jsonTexts (texts : List String) : Json.Document := .list (texts.map .text)

end GradedQuery.CommandLine
