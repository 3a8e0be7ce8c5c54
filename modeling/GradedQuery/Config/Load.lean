import GradedQuery.Config.Shape
import GradedQuery.Config.Variables
import GradedQuery.Yaml.Reader

/-!
# Loading a configuration

A configuration has three layers: defaults, a file, and environment variables.  The layers are put
together before their shape is looked at, and values are looked at only in a configuration of the
right shape.
-/

namespace GradedQuery.Config

/-- The settings of a configuration file.  A blank file has none. -/
def fileSettings (text : String) : Except ConfigError Setting :=
  if (Text.trim text).isEmpty then .ok (.table [])
  else (Yaml.read text).mapError .document

/-- The configuration that the layers make; `text?` is the text of the file, if there is one. -/
def load (defaults : Config) (text? : Option String) (env : Environment) :
    Except ConfigError Config := do
  let fromFile ← match text? with
    | some text => fileSettings text
    | none => pure (.table [])
  let settings := (defaults.toSettings.merge fromFile).merge (Variables.settings env)
  let config ← (ofSettings settings).mapError ConfigError.mismatch
  config.validate
  return config

end GradedQuery.Config
