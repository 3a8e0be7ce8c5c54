import GradedQuery.Config
import GradedQuery.Yaml.Writer

/-!
# Configurations as YAML

The text in which a configuration is saved and shown.
-/

namespace GradedQuery.Config

/-- The YAML text of a configuration. -/
def toYaml (config : Config) : String :=
  let types := config.attributes.toList.map fun (attr, t) => (attr, t.name)
  let data := match config.data with
    | some path => Yaml.writeEntry 0 "data" (Yaml.textValue 0 path)
    | none => ""
  Yaml.writeEntry 0 "separator" (Yaml.textValue 0 config.separator) ++
    Yaml.writeEntry 0 "max-depth" (" " ++ toString config.maxDepth) ++
    Yaml.writeEntry 0 "ordinal" (Yaml.listValue 0 config.ordinal) ++
    Yaml.writeEntry 0 "attributes" (Yaml.tableValue 0 types) ++ data

end GradedQuery.Config
