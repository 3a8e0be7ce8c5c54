import GradedQuery.CommandLine.Pattern
import GradedQuery.Text.Blank

/-!
# Directives for the log

A directive such as `cqql_query=debug` says up to which verbosity events are shown.  It may be about
the targets that start with its own, and about the events that have a certain field, as in
`cqql_query[{terms}]=debug`.  A directive that names a span, or a value of a field, is about
what happens inside of spans; there are none in this program, so it shows nothing.

A directive is read without the blanks around it, but **its parts are cut out of the text with
them**, at the places found without them.
-/

namespace GradedQuery.CommandLine

/-- Shows events up to a verbosity, 0 for none. -/
structure Directive where
  /-- How the targets of the events start. -/
  target : String := ""
  /-- A field that the events have. -/
  field : Option String := none
  /-- Whether it is about events outside of spans. -/
  reaches : Bool := true
  verbosity : Nat
  deriving DecidableEq, Repr

/-- The verbosity that shows everything. -/
def everything : Nat := 5

/-- The names of the verbosities. -/
def verbosityNames : List (String × Nat) :=
  [("off", 0), ("error", 1), ("warn", 2), ("info", 3), ("debug", 4), ("trace", everything)]

/-- The verbosity of a name, in any letter case, or of a number. -/
def verbosity? (cs : List Char) : Option Nat :=
  let digits := match cs with
    | '+' :: rest => rest
    | cs => cs
  match (Decimal.natural? 10 digits).filter (· ≤ everything) with
  | some n => some n
  | none => verbosityNames.lookup (String.ofList (cs.map Char.toLower))

/-- The number of bytes of characters in UTF-8. -/
def byteLength (cs : List Char) : Nat := (String.ofList cs).utf8ByteSize

/-- The characters behind so many bytes. -/
def dropBytes : Nat → List Char → List Char
  | _, [] => []
  | 0, cs => cs
  | n + 1, c :: cs => dropBytes (n + 1 - c.utf8Size) cs

/-- The characters of the first so many bytes. -/
def takeBytes (n : Nat) (cs : List Char) : List Char :=
  cs.take (cs.length - (dropBytes n cs).length)

/-- Whether a directive can start with this character. -/
def startsDirective (c : Char) : Bool :=
  c = '[' || c = '-' || c = ':' || c = '_' || Text.isAlphanumeric c

/-- The verbosity behind a directive's other parts, in front of which `start` bytes stand. -/
def levelAt? (whole : List Char) (start : Nat) : List Char → Option Nat
  | [] => some everything
  | '=' :: _ =>
    match dropBytes (start + 1) whole with
    | [] => some everything
    | level => verbosity? level
  | _ => none

/-- The condition on a field, which is written in braces: the field, unless a value is asked for. -/
def fieldCondition? (cs : List Char) : Option (Option String) :=
  if cs.isEmpty then none
  else match cs.dropWhile (· ≠ '=') with
    | [] => some (some (String.ofList cs))
    | _ :: value => if Pattern.isWellFormed (value.takeWhile (· ≠ '=')) then some none else none

/-- The directive with a part in brackets behind `start` bytes, where the bracket is opened. -/
def bracketed? (whole : List Char) (start : Nat) (inside : List Char) : Option Directive := do
  let target := String.ofList (takeBytes start whole)
  let span := inside.takeWhile fun c => c ≠ ']' && c ≠ '\x7b'
  let behind := start + 1 + byteLength span + 1
  match inside.drop span.length with
  | ']' :: rest => return ⟨target, none, false, ← levelAt? whole behind rest⟩
  | '\x7b' :: rest =>
    let written := rest.takeWhile (· ≠ '\x7d')
    let length := byteLength written
    let field? ← fieldCondition? (takeBytes length (dropBytes behind whole))
    match rest.drop written.length with
    | '\x7d' :: ']' :: rest =>
      let verbosity ← levelAt? whole (behind + length + 2) rest
      return ⟨target, field?, span.isEmpty && field?.isSome, verbosity⟩
    | _ => none
  | _ => none

/-- The directive of a text: a verbosity, or a target, a part in brackets or both, with a verbosity
behind an equals sign or without. -/
def directive? (text : String) : Option Directive :=
  let whole := text.toList
  let cs := Text.trimList whole
  if !cs.head?.any startsDirective then none
  else
    let target := cs.takeWhile fun c => c ≠ '=' && c ≠ '['
    let start := byteLength target
    match cs.drop target.length with
    | [] =>
      match verbosity? whole with
      | some v => some { verbosity := v }
      | none => some { target := text, verbosity := everything }
    | '[' :: inside => bracketed? whole start inside
    | level => (levelAt? whole start level).map fun v =>
        { target := String.ofList (takeBytes start whole), verbosity := v }

/-- The directives of a text, between commas.  Without any, errors are shown. -/
def directives? (text : String) : Option (List Directive) := do
  let directives ← ((text.splitOn ",").filter (!·.isEmpty)).mapM directive?
  return if directives.isEmpty then [{ verbosity := 1 }] else directives

end GradedQuery.CommandLine
