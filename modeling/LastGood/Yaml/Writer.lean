import LastGood.Yaml.Style

/-!
# Writing YAML

A tree is written in block style: every entry and every item has a line of its own, a map
inside another one stands two columns further in, and a list under a key stands at the
column of that key. Only empty collections are written in flow style.
-/

namespace LastGood.Yaml

variable {α : Type}

/-- A number as YAML writes it. -/
def numberChars : Number → List Char
  | .unsigned n => (toString n).toList
  | .signed n => (toString n).toList
  | .float .nan => ".nan".toList
  | .float (.infinite negative) => (if negative then "-.inf" else ".inf").toList
  | .float x => (Decimal.scientific x).toList

/-- Characters with a line feed behind them, unless they end a line themselves. -/
def asLine (cs : List Char) : List Char :=
  if isBreak cs.getLast? then cs else cs ++ ['\n']

mutual

/-- A value behind the key of a map whose keys stand at a column, up to the end of its
    last line. -/
def valueChars (column : Nat) : Tree α → List Char
  | .null _ => " null\n".toList
  | .bool _ value => (if value then " true\n" else " false\n").toList
  | .number _ value => ' ' :: numberChars value ++ ['\n']
  | .text _ text => ' ' :: asLine (scalarChars (column + 2) false text)
  | .list _ [] => " []\n".toList
  | .list _ (item :: rest) => '\n' :: itemsChars column (item :: rest)
  | .map _ [] => " \x7b\x7d\n".toList
  | .map _ (entry :: rest) =>
      '\n' :: spaces (column + 2) ++ entriesChars (column + 2) (entry :: rest)

/-- A value behind the hyphen of a list whose hyphens stand at a column, up to the end of
    its last line. -/
def itemChars (column : Nat) : Tree α → List Char
  | .null _ => "null\n".toList
  | .bool _ value => (if value then "true\n" else "false\n").toList
  | .number _ value => numberChars value ++ ['\n']
  | .text _ text => asLine (scalarChars (column + 2) false text)
  | .list _ [] => "[]\n".toList
  | .list _ (item :: rest) =>
      '-' :: ' ' :: itemChars (column + 2) item ++ itemsChars (column + 2) rest
  | .map _ entries => mapItemChars (column + 2) entries

/-- A map behind a hyphen, its keys at a column. -/
def mapItemChars (column : Nat) : List (String × Tree α) → List Char
  | [] => "\x7b\x7d\n".toList
  | entry :: rest => entriesChars column (entry :: rest)

/-- Items at a column. -/
def itemsChars (column : Nat) : List (Tree α) → List Char
  | [] => []
  | item :: rest => spaces column ++ '-' :: ' ' :: itemChars column item ++ itemsChars column rest

/-- Entries at a column, the first of which is there already. -/
def entriesChars (column : Nat) : List (String × Tree α) → List Char
  | [] => []
  | [(key, value)] => scalarChars (column + 2) true key ++ ':' :: valueChars column value
  | (key, value) :: next :: rest =>
      scalarChars (column + 2) true key ++ ':' :: valueChars column value ++
        spaces column ++ entriesChars column (next :: rest)

end

/-- The text of a map with these entries. -/
def textOf (entries : List (String × Tree α)) : String :=
  String.ofList (mapItemChars 0 entries)

end LastGood.Yaml
