import GradedQuery.CommandLine.Run

/-!
# The program

Carries out commands on the machine it runs on, and prints the report.
-/

namespace GradedQuery.Machine

/-- The reason why an operation failed. -/
def reason (e : IO.Error) : FileError :=
  match e with
  | .noFileOrDirectory .. | .noSuchThing .. => .notFound
  | .permissionDenied .. => .permissionDenied
  | .alreadyExists .. => .alreadyExists
  | .inappropriateType _ code _ => if code = 21 then .isADirectory else .notADirectory
  | .invalidArgument _ code _ => if code = 36 then .nameTooLong else .other (toString e)
  | e => .other (toString e)

/-- The outcome of an operation. -/
def outcome {α : Type} (x : IO α) : IO (Except FileError α) := do
  try
    return .ok (← x)
  catch e => return .error (reason e)

/-- The outcome of an operation, or another value if it fails. -/
def orElse {α : Type} (x : IO α) (other : α) : IO α := do
  try x catch _ => return other

/-- The parts of some bytes that end with a zero. -/
def splitAtZeros (bytes : List UInt8) : List (List UInt8) :=
  bytes.foldr (fun b parts =>
    if b = 0 then [] :: parts
    else match parts with
      | part :: rest => (b :: part) :: rest
      | [] => [[b]]) []

/-- A variable from its definition. -/
def definition? (bytes : List UInt8) : Option (String × String) := do
  let text ← String.fromUTF8? ⟨bytes.toArray⟩
  let cs := text.toList
  if cs.contains '=' then
    some (String.ofList (cs.takeWhile (· ≠ '=')), String.ofList ((cs.dropWhile (· ≠ '=')).drop 1))
  else none

/-- The variables that are set. -/
def environment : IO Environment := do
  let bytes ← orElse (IO.FS.readBinFile "/proc/self/environ") ByteArray.empty
  return ⟨(splitAtZeros bytes.toList).filterMap definition?⟩

instance : Host IO where
  environment := environment
  currentDirectory := outcome do return toString (← IO.FS.realPath ".")
  inputLine := outcome do (← IO.getStdin).getLine
  outputIsTerminal := do (← IO.getStdout).isTty
  isThere path := orElse (do let _ ← IO.FS.realPath path; return true) false
  isDirectory path := orElse (do (← IO.FS.realPath path).isDir) false
  locate? path := orElse (do
    let absolute := toString (← IO.FS.realPath path)
    return some ((absolute.splitOn "/").filter (!·.isEmpty))) none
  contents path := outcome do return (← IO.FS.readBinFile path).toList
  store path text := outcome (IO.FS.writeFile path text)
  makeDirectories path := outcome (IO.FS.createDirAll path)

end GradedQuery.Machine

/-- Runs the program. -/
def main (args : List String) : IO UInt32 := do
  let report : GradedQuery.CommandLine.Report ← GradedQuery.CommandLine.run args
  IO.print report.output
  IO.eprint report.errors
  return report.code.toUInt32
