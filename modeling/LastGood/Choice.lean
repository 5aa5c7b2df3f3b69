import LastGood.Reading

/-!
# Reading choices

A choice among names without further content is written as its name, or as a map whose
only key is the name and whose value is absent. The name that tells the variants of a
record apart, which stands inside that record, must be a text.
-/

namespace LastGood.Tree

variable {α β : Type}

/-- Reads a name among the known ones. -/
def nameAmong (known : List (String × β)) (tree : Tree α) (name : String) :
    Except (Fault α) β :=
  match Entries.get? name known with
  | some value => .ok value
  | none => .error (tree.fault (.unknownVariant name (known.map Prod.fst)))

/-- Reads a choice. -/
def readChoice (known : List (String × β)) : Reader α β
  | tree@(text _ name) => nameAmong known tree name
  | tree@(map _ [(name, content)]) => do
      let value ← nameAmong known tree name
      match content with
      | null _ => return value
      | other => other.refused "unit"
  | tree@(map ..) => .error (tree.fault (.wrongValue .map "map with a single key"))
  | tree => tree.refused "string or map"

/-- Reads the name of a variant inside a record. -/
def readTag (known : List (String × β)) : Reader α β
  | tree@(text _ name) => nameAmong known tree name
  | tree => tree.refused "variant identifier"

end LastGood.Tree
