import GradedQuery.Config.Load
import GradedQuery.Config.Yaml
import GradedQuery.Files.Host
import GradedQuery.Files.Path

/-!
# The configuration directory

A project keeps its configuration in a directory `.cqql`.  It is looked for in a directory and in
those around it, the nearest one counting, unless an environment variable names one.
-/

namespace GradedQuery

variable {m : Type → Type} [Monad m] [Host m]

namespace ConfigDirectory

/-- The name of the directory. -/
def name : String := ".cqql"

/-- The variable that names a directory to be taken instead. -/
def variableName : String := "CQQL_DIR"

/-- The name of the configuration file in the directory. -/
def fileName : String := "config.yaml"

/-- The first of some paths that leads to a directory. -/
def firstDirectory? : List String → m (Option String)
  | [] => return none
  | path :: rest => do
    if ← Host.isDirectory path then return some path
    else firstDirectory? rest

/-- The configuration directory that counts in the directory `start`. -/
def find? (start : String) : m (Option String) := do
  let named := (← Host.environment).get? variableName
  match ← firstDirectory? named.toList with
  | some path => return some path
  | none =>
    match ← Host.locate? start with
    | none => return none
    | some names =>
      firstDirectory? ((Path.around names).map fun around => Path.join (Path.ofNames around) name)

/-- The same, where there has to be one. -/
def find (start : String) : m (Except ConfigError String) := do
  match ← find? start with
  | some path => return .ok path
  | none => return .error .noDirectory

/-- Makes sure that there is a configuration directory: the given one if it is called so, else one
in it. -/
def ensure (path : String) : m (Except ConfigError String) := do
  let directory := if Path.lastPart? path = some name then path else Path.join path name
  match ← Host.makeDirectories directory with
  | .ok () => return .ok directory
  | .error e => return .error (.file e)

end ConfigDirectory

namespace Config

/-- The text of a file. -/
def textOf (path : String) : m (Except FileError String) := do
  return (← Host.contents path).bind fun bytes => textOfBytes ⟨bytes.toArray⟩

/-- The configuration that a file makes of the defaults; the file has to be there. -/
def loadFile (defaults : Config) (path : String) : m (Except ConfigError Config) := do
  let env ← Host.environment
  match ← textOf path with
  | .ok text => return load defaults (some text) env
  | .error e => return .error (.file e)

/-- The configuration of a configuration directory, whose file may be missing. -/
def loadDirectory (directory : String) : m (Except ConfigError Config) := do
  let path := Path.join directory ConfigDirectory.fileName
  if ← Host.isThere path then loadFile {} path
  else return load {} none (← Host.environment)

/-- Writes a configuration into a configuration directory, which is created if it is missing. -/
def save (directory : String) (config : Config) : m (Except ConfigError Unit) := do
  match ← Host.makeDirectories directory with
  | .error e => return .error (.file e)
  | .ok () =>
    return (← Host.store (Path.join directory ConfigDirectory.fileName) config.toYaml).mapError
      .file

end Config

end GradedQuery
