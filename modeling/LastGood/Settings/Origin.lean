import LastGood.Reading
import LastGood.Number.Decimal
import LastGood.Text.Quoted
import LastGood.Yaml.Error

/-!
# Where settings come from

Every value of the settings knows the layer it came from, and a fault in a value is
reported with that layer and with the path of the value as the layer would write it. A
document may say by a number that a value came from elsewhere; of that nothing is known.
-/

namespace LastGood

/-- A layer of settings. -/
inductive Origin where
  /-- The defaults. -/
  | defaults
  /-- A YAML text. -/
  | yamlText
  /-- A YAML file, by the path that it is shown with. -/
  | yamlFile (shown : String)
  /-- The overrides of the environment. -/
  | overrides
  /-- Something of which nothing is known. -/
  | elsewhere
  deriving DecidableEq, Repr

namespace Origin

/-- The origin of a value in a layer that may name another source by its number. Zero
    names none. -/
def orSource (layer : Origin) : Option Nat → Origin
  | none | some 0 => layer
  | some _ => elsewhere

/-- The name of a layer. -/
def name? : Origin → Option String
  | defaults => some "default configuration"
  | yamlText => some "YAML source string"
  | yamlFile shown => some (shown ++ " YAML file")
  | overrides => some "`CONFCACHE_` environment variable(s)"
  | elsewhere => none

/-- A path of keys as the layer writes it: overrides are in upper case, and everything
    else belongs to the profile `default`. -/
def pathText (origin : Origin) (path : List String) : String :=
  match origin with
  | overrides =>
      String.intercalate "." (path.map fun key => String.ofList (key.toList.map Char.toUpper))
  | _ => String.intercalate "." ("default" :: path)

/-- What an error says of the place of a value under a path of keys. -/
def placeText (origin : Origin) (path : List String) : String :=
  match origin.name? with
  | none => ""
  | some name =>
      (if path.isEmpty then "" else " for key " ++ Text.quoted (origin.pathText path)) ++
        " in " ++ name

end Origin

/-- Why there are no settings. -/
inductive SettingsError where
  /-- A layer is not a YAML text. -/
  | malformed (error : Yaml.Error) (origin : Origin)
  /-- A layer cannot be read at all. -/
  | unreadable (reason : String) (origin : Origin)
  /-- A value cannot be read as the setting that it is for. -/
  | mismatch (fault : Fault Origin)
  /-- The reading of an override crashed. -/
  | crash (text : String)
  deriving DecidableEq, Repr

namespace SettingsError

/-- What was found, in the words of the settings. Numbers beyond 64 bits are named by
    their width alone. -/
def foundText : Found → String
  | .null => "unit"
  | .bool value => "bool " ++ (if value then "true" else "false")
  | .number (.unsigned n) =>
      if n < Number.wordBound then "unsigned int `" ++ toString n ++ "`"
      else "integer `" ++ toString n ++ "` as u128"
  | .number (.signed n) =>
      if -(Number.signedWordBound : Int) ≤ n then "signed int `" ++ toString n ++ "`"
      else "integer `" ++ toString n ++ "` as i128"
  | .number (.float x) => "float `" ++ Decimal.positional x ++ "`"
  | .text value => "string " ++ Text.quoted value
  | .list => "sequence"
  | .map => "map"

/-- The text of a cause. -/
def causeText : Cause → String
  | .wrongKind found expected =>
      "invalid type: found " ++ foundText found ++ ", expected " ++ expected
  | .wrongValue found expected => "invalid value " ++ foundText found ++ ", expected " ++ expected
  | .wrongLength length expected =>
      "invalid length " ++ toString length ++ ", expected " ++ expected
  | .unknownVariant name known =>
      "unknown variant: found `" ++ name ++ "`, expected `" ++ String.intercalate "`, `" known ++
        "`"
  | .missingField name => "missing field `" ++ name ++ "`"

/-- The text of an error. -/
def message : SettingsError → String
  | malformed error origin => error.text ++ origin.placeText []
  | unreadable reason origin => reason ++ origin.placeText []
  | mismatch fault => causeText fault.cause ++ fault.mark.placeText fault.path
  | crash text => text

end SettingsError

end LastGood
