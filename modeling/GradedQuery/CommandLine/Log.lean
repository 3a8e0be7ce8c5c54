import GradedQuery.CommandLine.Directive
import GradedQuery.Environment
import GradedQuery.Trace

/-!
# The log

With the option `--verbose` the program tells what it does, a line an event.  Which events are shown
is decided by directives, and **of several ones that fit an event the one with the longest target
decides**.
-/

namespace GradedQuery.CommandLine

/-! ## Records -/

/-- An event as it is shown. -/
structure LogRecord where
  level : Level
  target : String
  message : String
  fields : List (String × String) := []
  deriving DecidableEq, Repr

namespace LogRecord

/-- The record of an event of the compilation. -/
def ofEvent (e : Event) : LogRecord := ⟨e.level, e.target, e.message, e.fields⟩

/-- The line of a record; the level is aligned to the right in five columns. -/
def line (r : LogRecord) : String :=
  let padding := String.ofList (List.replicate (5 - r.level.name.length) ' ')
  padding ++ r.level.name ++ " " ++ r.target ++ ": " ++ r.message ++
    String.join (r.fields.map fun (name, value) => " " ++ name ++ "=" ++ value)

end LogRecord

/-! ## What is shown -/

/-- The variable that holds the directives. -/
def logVariable : String := "RUST_LOG"

/-- The directives unless others are given. -/
def defaultDirectives : List Directive :=
  ["cq", "cqql_query", "cqql_config"].map fun target =>
    { target, verbosity := Level.debug.verbosity }

/-- The directives of an environment.  Those that make no sense do not count. -/
def logDirectives (env : Environment) : List Directive :=
  ((env.get? logVariable).bind directives?).getD defaultDirectives

/-- Whether a directive is about a record. -/
def Directive.fits (d : Directive) (r : LogRecord) : Bool :=
  d.reaches && d.target.isPrefixOf r.target &&
    d.field.all fun name => name = "message" || r.fields.any (·.1 = name)

/-- Whether a directive gives way to another one: the longer target decides, then the condition on
a field, and of two fields the one later in the alphabet. -/
def Directive.givesWay (d e : Directive) : Bool :=
  let key (d : Directive) := d.field.elim "" ("=" ++ ·)
  d.target.utf8ByteSize < e.target.utf8ByteSize ||
    d.target.utf8ByteSize = e.target.utf8ByteSize && key d ≤ key e

/-- The directive that decides: of equally good ones the last. -/
def moreSpecific (found : Option Directive) (d : Directive) : Option Directive :=
  match found with
  | some e => if e.givesWay d then some d else some e
  | none => some d

/-- Whether directives let a record be shown. -/
def isShown (directives : List Directive) (r : LogRecord) : Bool :=
  match (directives.filter (·.fits r)).foldl moreSpecific none with
  | some d => r.level.verbosity ≤ d.verbosity
  | none => false

end GradedQuery.CommandLine
