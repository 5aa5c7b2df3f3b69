import LastGood.Config.Record
import LastGood.Override
import LastGood.Settings.Origin
import LastGood.Yaml.Reader

/-!
# Settings

Settings are layers of trees, each laid over the ones before: the defaults, then a YAML
text or file, then, for what the server runs on, the overrides of the environment. A
configuration is read from what the layers amount to.
-/

namespace LastGood.Settings

/-- Settings read lists of fields up to the last field and leave what follows. -/
def strictness : Strictness := ⟨false⟩

/-- The settings that hold when nothing is set. -/
def defaults : Tree Origin := (({} : Config).toTree Origin.defaults).sorted

/-- The configuration that settings amount to. -/
def config (settings : Tree Origin) : Except SettingsError Config :=
  ((Config.record strictness).read strictness settings).mapError .mismatch

/-- The settings of a YAML text from some layer, over the defaults. -/
def ofYaml (origin : Origin) (yaml : String) : Except SettingsError (Tree Origin) :=
  match Yaml.entriesOf yaml with
  | .ok entries => .ok (defaults.overlaidBy ((Tree.map none entries).mapMarks origin.orSource))
  | .error error => .error (.malformed error origin)

/-- Settings with overrides over them. -/
def overridden (overrides : List Override) (settings : Tree Origin) : Tree Origin :=
  settings.overlaidBy ((Tree.map () (Override.entries overrides)).marked .overrides)

end LastGood.Settings

namespace LastGood.Config

/-- The configuration that a YAML text writes: what is edited and saved again. -/
def ofYaml (yaml : String) : Except SettingsError Config := do
  let settings ← Settings.ofYaml .yamlText yaml
  Settings.config settings

/-- The configuration that a YAML text writes with the overrides of an environment: what
    the server runs on. A crash among the overrides comes before everything else. -/
def runtimeOfYaml (environment : Environment) (yaml : String) : Except SettingsError Config := do
  let overrides ← (Override.ofEnvironment environment).mapError .crash
  let settings ← Settings.ofYaml .yamlText yaml
  Settings.config (Settings.overridden overrides settings)

end LastGood.Config
