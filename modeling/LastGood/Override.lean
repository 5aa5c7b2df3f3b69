import LastGood.Environment
import LastGood.Override.Value
import LastGood.Text.Split

/-!
# Overrides

Variables whose names start with `CONFCACHE_`, in any case, override settings. The rest
of the name is a path of keys between points, where two underscores count as a point.
Keys are in lower case; a name with an empty key overrides nothing. Later variables are
laid over earlier ones.
-/

namespace LastGood

/-- A setting and its value. -/
structure Override where
  /-- The keys that lead to the setting, outermost first. -/
  path : List String
  /-- The value. -/
  value : Tree Unit
  deriving Repr

namespace Override

/-- The start of the names of overrides, in lower case. -/
def nameStart : List Char := "confcache_".toList

/-- What follows the start of an override's name. -/
def afterNameStart? (name : List Char) : Option (List Char) :=
  if (name.take nameStart.length).map Char.toLower == nameStart then
    some (name.drop nameStart.length)
  else none

/-- A name with every two underscores replaced by a point. -/
def pointed : List Char → List Char
  | '_' :: '_' :: rest => '.' :: pointed rest
  | c :: rest => c :: pointed rest
  | [] => []

/-- The path of keys that the name of a variable stands for. -/
def path? (name : String) : Option (List String) := do
  let rest ← afterNameStart? (Text.trimmed name.toList)
  let keys := Text.pieces '.' (Text.trimmed (pointed rest))
  if keys.any List.isEmpty then none
  else some (keys.map fun key => String.ofList (key.map Char.toLower))

/-- The overrides of an environment, in its order. A value whose reading crashes leaves
    none of them but the message of the crash. -/
def ofEnvironment : Environment → Except String (List Override)
  | [] => .ok []
  | (name, text) :: rest =>
      match path? name with
      | none => ofEnvironment rest
      | some path => do
          let value ← valueTree text
          let others ← ofEnvironment rest
          return ⟨path, value⟩ :: others

/-- Overrides as the entries of a map, later ones laid over earlier ones. -/
def entries (overrides : List Override) : List (String × Tree Unit) :=
  overrides.foldl (fun below override =>
    match Tree.nested () override.path override.value with
    | .map _ upper => Tree.entriesOverlaid below upper
    | _ => below) []

end Override

end LastGood
