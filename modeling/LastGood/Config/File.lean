import LastGood.Machine
import LastGood.Settings

/-!
# Configurations from files

A configuration can be read from a file without a store. A relative path is looked for in
the current directory and then in every directory above it; if there is no file at all,
the defaults hold. In errors the file is shown as seen from the current directory, unless
the path from the root is shorter.
-/

namespace LastGood.Config

/-- The directories from one up to the root. -/
def directoriesUp : List String → List (List String)
  | [] => [[]]
  | names@(_ :: rest) => names.reverse :: directoriesUp rest

/-- The paths at which a file may be, in the order in which they are tried. -/
def candidates (machine : Machine) (path : Path) : List Path :=
  if path.isAbsolute then [path]
  else
    (directoriesUp machine.directory.reverse).map fun names =>
      (⟨"/" ++ String.intercalate "/" names⟩ : Path).join path

/-- The first file among the candidates. -/
def find? (machine : Machine) (path : Path) : Option Path :=
  (candidates machine path).find? fun candidate =>
    machine.disk.isFile machine.directory candidate

/-- How the path of a file is shown. -/
def shownPath (machine : Machine) (path : Path) : String :=
  let relative := path.relativeTo machine.directoryPath
  if relative.components.length < path.components.length then relative.text else path.text

/-- The configuration that a file holds. -/
def ofFile (machine : Machine) (path : Path) : Except SettingsError Config :=
  match find? machine path with
  | none => Settings.config Settings.defaults
  | some file => do
      let origin := Origin.yamlFile (shownPath machine file)
      let text ← (machine.readText file).mapError fun fault => .unreadable fault.text origin
      let settings ← Settings.ofYaml origin text
      Settings.config settings

end LastGood.Config
