import LastGood.Yaml.Token

/-!
# Events of YAML

The events of a document list its nodes in the order of the text: a scalar or an alias
is one event, a collection has one where it starts and one where it ends. Anchors stand
with the event that starts a node, and tags are resolved to what they mean.
-/

namespace LastGood.Yaml

/-- What a tag says about its node. -/
inductive Tag where
  /-- The node is a truth value. -/
  | bool
  /-- The node is a whole number. -/
  | int
  /-- The node is a number. -/
  | float
  /-- The node is absent. -/
  | null
  /-- The node is the content of a variant with this name. -/
  | variant (name : String)
  /-- The node is the content of a variant whose name is no text. -/
  | namelessVariant
  /-- Anything else, which tells a scalar to be a text. -/
  | other
  deriving DecidableEq, Repr

/-- The meaning of a resolved tag: an exclamation mark introduces the name of a variant,
    and is that name when nothing follows it; four of the tags of the core schema are
    known. -/
def Tag.ofOctets : List UInt8 → Tag
  | [0x21] => .variant "!"
  | 0x21 :: name =>
      match String.fromUTF8? ⟨name.toArray⟩ with
      | some text => .variant text
      | none => .namelessVariant
  | octets =>
      match String.fromUTF8? ⟨octets.toArray⟩ with
      | some "tag:yaml.org,2002:bool" => .bool
      | some "tag:yaml.org,2002:int" => .int
      | some "tag:yaml.org,2002:float" => .float
      | some "tag:yaml.org,2002:null" => .null
      | _ => .other

/-- A scalar node. -/
structure Scalar where
  /-- Its text. -/
  text : String
  /-- How it is written. -/
  style : ScalarStyle
  /-- Its tag, if it has one. -/
  tag : Option Tag := none
  deriving DecidableEq, Repr

/-- What an event is. -/
inductive EventKind where
  /-- A node that is another one. -/
  | alias (name : String)
  /-- A scalar. -/
  | scalar (scalar : Scalar)
  /-- The start of a list. -/
  | listStart (tag : Option Tag)
  /-- The end of a list. -/
  | listEnd
  /-- The start of a map. -/
  | mapStart (tag : Option Tag)
  /-- The end of a map. -/
  | mapEnd
  deriving DecidableEq, Repr

/-- An event and where it starts. -/
structure Event where
  /-- What it is. -/
  kind : EventKind
  /-- Where it starts. -/
  mark : Mark
  /-- The name of the node that it starts. -/
  anchor : Option String := none
  deriving DecidableEq, Repr

end LastGood.Yaml
