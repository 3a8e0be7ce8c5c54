import GradedQuery.Attribute
import GradedQuery.FileError
import GradedQuery.OrderedSet
import GradedQuery.Text.Blank
import GradedQuery.Yaml.Scalar

/-!
# Configuration

What can be configured: how atom names are split into attribute and bucket, which attributes are
ordinal, how attributes are read, how deep cases are split, and where the dataset is.
-/

namespace GradedQuery

/-- A configuration.  Its defaults are the built-in ones. -/
structure Config where
  /-- Between attribute and bucket in atom names. -/
  separator : String := defaultSeparator
  /-- The greatest depth of nested case splits. -/
  maxDepth : Nat := 50
  /-- The attributes whose buckets must not overlap, as they are given. -/
  ordinal : List String := []
  /-- The types of attributes. -/
  attributes : Schema := ∅
  /-- The path of the dataset. -/
  data : Option String := none
  deriving DecidableEq

/-- The set of the names that remain when a list is trimmed. -/
def trimmedNames (names : List String) : OrderedSet String :=
  .ofList ((names.map Text.trim).filter (!·.isEmpty))

namespace Config

/-- The naming that a configuration describes. -/
def naming (config : Config) : Naming := attributeBy config.separator

/-- The ordinal attributes. -/
def ordinalAttributes (config : Config) : OrderedSet String := trimmedNames config.ordinal

end Config

/-! ## Errors -/

/-- How a setting misses the shape that is wanted in its place. -/
inductive MismatchKind where
  /-- It is of the wrong kind. -/
  | wrongType
  /-- It is of the right kind and out of range. -/
  | outOfRange
  /-- It names none of the known choices. -/
  | unknownChoice
  deriving DecidableEq, Repr

/-- A setting of the wrong shape, with the keys down to it. -/
structure Mismatch where
  kind : MismatchKind
  path : List String
  deriving DecidableEq, Repr

/-- The text of a mismatch. -/
def Mismatch.message (m : Mismatch) : String :=
  let what := match m.kind with
    | .wrongType => "invalid type"
    | .outOfRange => "invalid value"
    | .unknownChoice => "unknown variant"
  what ++ " for key '" ++ ".".intercalate m.path ++ "'"

/-- Why a configuration cannot be had. -/
inductive ConfigError where
  /-- A file or directory cannot be read or written. -/
  | file (error : FileError)
  /-- The file is no document with settings. -/
  | document (fault : Yaml.Fault)
  /-- A setting has the wrong shape. -/
  | mismatch (mismatch : Mismatch)
  /-- A setting has the right shape and makes no sense. -/
  | invalid (key reason : String)
  /-- There is no configuration directory. -/
  | noDirectory
  deriving DecidableEq, Repr

namespace ConfigError

/-- What underlies an error, where it is not all there is to say. -/
def cause? : ConfigError → Option String
  | .file e => some e.message
  | .document fault => some fault.message
  | .mismatch m => some m.message
  | .invalid .. | .noDirectory => none

/-- The text of an error. -/
def message : ConfigError → String
  | .file e => "failed to read config file: " ++ e.message
  | .document fault => "invalid configuration: " ++ fault.message
  | .mismatch m => "invalid configuration: " ++ m.message
  | .invalid key reason => "invalid configuration value for key '" ++ key ++ "': " ++ reason
  | .noDirectory => "no .cqql directory found (run 'cq config init' first)"

end ConfigError

/-- Refuses a configuration that cannot be worked with. -/
def Config.validate (config : Config) : Except ConfigError Unit :=
  if config.maxDepth = 0 then .error (.invalid "max-depth" "must be at least 1")
  else if config.separator.isEmpty then .error (.invalid "separator" "must not be empty")
  else .ok ()

end GradedQuery
