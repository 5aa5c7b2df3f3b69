import LastGood.Settings
import LastGood.Yaml.Writer

/-!
# Configurations as YAML

The text that a configuration is saved as. It holds every field, so that reading it back
needs no defaults. A configuration whose directory has no text cannot be saved.
-/

namespace LastGood.Config

/-- The YAML text of a configuration. -/
def toYaml (config : Config) : String :=
  match config.toTree () with
  | .map _ entries => Yaml.textOf entries
  | _ => ""

/-- What `write` writes of a configuration, or why it writes nothing. -/
def writtenBy {β : Type} (write : Config → β) (config : Config) : Except String β :=
  config.server.artifactsDir.writing (write config)

/-- The YAML text of a configuration, or why it has none. -/
def written (config : Config) : Except String String := config.writtenBy toYaml

end LastGood.Config
