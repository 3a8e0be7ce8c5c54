import GradedQuery.Files.Host
import GradedQuery.Files.Path
import GradedQuery.OrderedMap

/-!
# File trees

A tree of directories and files in memory.  A path is walked step by step from the root or from a
directory; every step needs a directory to start from, and neither a name nor a path may be too
long.
-/

namespace GradedQuery

/-- What a path can lead to. -/
inductive FileNode where
  | directory
  | file (bytes : List UInt8)
  deriving DecidableEq

/-- The directories and files under a root, by their names from the root on. -/
structure FileTree where
  nodes : OrderedMap (List String) FileNode := ∅

namespace FileTree

/-- What is found under some names; the root is a directory. -/
def node? (tree : FileTree) (names : List String) : Option FileNode :=
  if names.isEmpty then some .directory else tree.nodes.get? names

/-- The greatest number of bytes of a name. -/
def nameLimit : Nat := 255

/-- The greatest number of bytes of a path. -/
def pathLimit : Nat := 4095

/-- Walks from a directory along the steps of a path. -/
def walk (tree : FileTree) (names : List String) : List String → Except FileError (List String)
  | [] => .ok names
  | step :: rest =>
    match tree.node? names with
    | none => .error .notFound
    | some (.file _) => .error .notADirectory
    | some .directory =>
      if step = "." then walk tree names rest
      else if step = ".." then walk tree names.dropLast rest
      else if nameLimit < step.utf8ByteSize then .error .nameTooLong
      else walk tree (names ++ [step]) rest

/-- The names that a path starts from. -/
def start (directory : List String) (path : String) : List String :=
  if Path.isAbsolute path then [] else directory

/-- Refuses paths that lead nowhere whatever the tree is. -/
def checkPath (path : String) : Except FileError Unit := do
  if path.contains '\x00' then throw .nullInPath
  if path.isEmpty then throw .notFound
  if pathLimit < path.utf8ByteSize then throw .nameTooLong

/-- What a path leads to, with its names. -/
def find (tree : FileTree) (directory : List String) (path : String) :
    Except FileError (List String × FileNode) := do
  checkPath path
  let names ← tree.walk (start directory path) (Path.steps path)
  match tree.node? names with
  | some node => return (names, node)
  | none => throw .notFound

/-- The bytes of the file under a path. -/
def contents (tree : FileTree) (directory : List String) (path : String) :
    Except FileError (List UInt8) := do
  match ← tree.find directory path with
  | (_, .file bytes) => return bytes
  | (_, .directory) => throw .isADirectory

/-- The names to which the last step along a path leads, with what is there.  It is none for a
point, which is no name of its own. -/
def place (tree : FileTree) (names steps : List String) :
    Except FileError (Option (List String × Option FileNode)) := do
  let names ← tree.walk names steps
  match steps.getLast? with
  | none | some "." | some ".." => return none
  | some _ => return some (names, tree.node? names)

/-- Replaces or creates the file under a path. -/
def store (tree : FileTree) (directory : List String) (path : String) (bytes : List UInt8) :
    Except FileError FileTree := do
  checkPath path
  match ← tree.place (start directory path) (Path.steps path) with
  | none | some (_, some .directory) => throw .isADirectory
  | some (names, _) => return ⟨tree.nodes.insert names (.file bytes)⟩

/-! ### Directories

To make a directory and those around it, one goes outwards until one can be made or is there, and
then inwards again.  What has been made stays, also where a later step fails. -/

/-- Creates the directory at the end of some steps. -/
def makeDirectory (tree : FileTree) (names steps : List String) : Except FileError FileTree := do
  match ← tree.place names steps with
  | some (names, none) => return ⟨tree.nodes.insert names .directory⟩
  | _ => throw .alreadyExists

/-- Whether some steps lead to a directory. -/
def leadsToDirectory (tree : FileTree) (names steps : List String) : Bool :=
  match tree.walk names steps with
  | .ok names => tree.node? names = some .directory
  | .error _ => false

/-- Creates the first of some directories that can be made, unless one before it is there.  Yields
those passed over, the last one first. -/
def makeOuter (tree : FileTree) (names : List String) (inner : List (List String)) :
    List (List String) → Except FileError (FileTree × List (List String))
  | [] => .ok (tree, inner)
  | steps :: outer =>
    match tree.makeDirectory names steps with
    | .ok tree => .ok (tree, inner)
    | .error .notFound => makeOuter tree names (steps :: inner) outer
    | .error e =>
      if e = .alreadyExists ∧ tree.leadsToDirectory names steps then .ok (tree, inner)
      else .error e

/-- Creates directories in their order, as far as they are missing. -/
def makeInner (tree : FileTree) (names : List String) :
    List (List String) → Except FileError Unit × FileTree
  | [] => (.ok (), tree)
  | steps :: inner =>
    match tree.makeDirectory names steps with
    | .ok tree => makeInner tree names inner
    | .error e =>
      if e = .alreadyExists ∧ tree.leadsToDirectory names steps then makeInner tree names inner
      else (.error e, tree)

/-- Creates the directory under a path and those around it, as far as they are missing. -/
def makeDirectories (tree : FileTree) (directory : List String) (path : String) :
    Except FileError Unit × FileTree :=
  let names := start directory path
  if path.isEmpty then (.ok (), tree)
  else match do checkPath path; tree.makeOuter names [] (Path.onTheWay path) with
    | .ok (tree, inner) => tree.makeInner names inner
    | .error e => (.error e, tree)

end FileTree

/-! ## Programs on a file tree -/

/-- The surroundings of a run on a file tree. -/
structure Surroundings where
  environment : Environment := ⟨[]⟩
  /-- The names of the directory that relative paths start from. -/
  directory : List String := []
  /-- The bytes of the input. -/
  input : List UInt8 := []

/-- Programs that act on a file tree. -/
abbrev OnTree := ReaderT Surroundings (StateM FileTree)

namespace OnTree

/-- Looks at the tree. -/
def look {α : Type} (f : FileTree → List String → α) : OnTree α :=
  fun here tree => (f tree here.directory, tree)

/-- Changes the tree, or leaves it as it is where that fails. -/
def change (f : FileTree → List String → Except FileError FileTree) :
    OnTree (Except FileError Unit) := fun here tree =>
  match f tree here.directory with
  | .ok tree => (.ok (), tree)
  | .error e => (.error e, tree)

/-- The bytes of the first line, with its end. -/
def firstLine : List UInt8 → List UInt8
  | [] => []
  | b :: rest => if b = 10 then [b] else b :: firstLine rest

instance : Host OnTree where
  environment := return (← read).environment
  currentDirectory := return .ok (Path.ofNames (← read).directory)
  inputLine := return textOfBytes ⟨(firstLine (← read).input).toArray⟩
  outputIsTerminal := return false
  isThere path := look fun tree here => (tree.find here path).toOption.isSome
  isDirectory path := look fun tree here =>
    match tree.find here path with
    | .ok (_, .directory) => true
    | _ => false
  locate? path := look fun tree here => ((tree.find here path).map Prod.fst).toOption
  contents path := look fun tree here => tree.contents here path
  store path text := change fun tree here => tree.store here path text.toUTF8.toList
  makeDirectories path := fun here tree => tree.makeDirectories here.directory path

end OnTree

end GradedQuery
