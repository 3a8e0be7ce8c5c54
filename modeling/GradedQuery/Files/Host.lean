import GradedQuery.Environment
import GradedQuery.FileError

/-!
# What a program needs from its surroundings

Everything that reaches beyond the program goes through these few operations.  What is built on
them is the same whether they act on a machine or on a file tree in memory (`Files/Tree.lean`).
-/

namespace GradedQuery

/-- The operations that reach beyond a program. -/
class Host (m : Type → Type) where
  /-- The environment variables. -/
  environment : m Environment
  /-- The path of the directory that relative paths start from. -/
  currentDirectory : m (Except FileError String)
  /-- The next line of the input, with its end. -/
  inputLine : m (Except FileError String)
  /-- Whether the output goes to a terminal. -/
  outputIsTerminal : m Bool
  /-- Whether a path leads to anything. -/
  isThere : String → m Bool
  /-- Whether a path leads to a directory. -/
  isDirectory : String → m Bool
  /-- The names from the root on of what a path leads to. -/
  locate? : String → m (Option (List String))
  /-- The bytes of a file. -/
  contents : String → m (Except FileError (List UInt8))
  /-- Replaces or creates a file. -/
  store : String → String → m (Except FileError Unit)
  /-- Creates a directory and those around it, as far as they are missing. -/
  makeDirectories : String → m (Except FileError Unit)

end GradedQuery
