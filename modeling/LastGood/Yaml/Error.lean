import LastGood.Yaml.Mark

/-!
# Why a YAML text has no tree

Besides the problems of its syntax, a text may use what cannot be followed: an alias
without its anchor, aliases that unfold too deep or too often, a second document. And a
node may not be what its tag or its place asks for; such a mismatch is reported with the
path of the node, unless that is the root.
-/

namespace LastGood.Yaml

/-- The path of a node. -/
inductive NodePath where
  /-- The root of the document. -/
  | root
  /-- The value of a key. -/
  | key (parent : NodePath) (name : String)
  /-- The value of a key that is not written as a scalar. -/
  | unnamed (parent : NodePath)
  /-- An item of a list. -/
  | item (parent : NodePath) (position : Nat)
  deriving DecidableEq, Repr

namespace NodePath

/-- The path as a text. -/
def text : NodePath → String
  | root => "."
  | key root name => name
  | key parent name => parent.text ++ "." ++ name
  | unnamed root => "?"
  | unnamed parent => parent.text ++ ".?"
  | item parent position => parent.text ++ "[" ++ toString position ++ "]"

end NodePath

/-- Why a YAML text has no tree. -/
inductive Error where
  /-- The text breaks the rules of the syntax. -/
  | syntactic (problem : Problem)
  /-- An alias refers to no anchor before it. -/
  | unknownAnchor (mark : Mark)
  /-- A node lies too deep. -/
  | tooDeep (mark : Mark)
  /-- Too many aliases are followed. -/
  | tooManyAliases
  /-- The text holds more than one document. -/
  | manyDocuments
  /-- A node is not what its tag or its place asks for. -/
  | mismatch (message : String) (path : NodePath) (mark : Mark)
  deriving DecidableEq, Repr

namespace Error

/-- The text of an error. -/
def text : Error → String
  | syntactic problem => problem.text
  | unknownAnchor mark => "unknown anchor" ++ mark.suffix
  | tooDeep mark => "recursion limit exceeded" ++ mark.suffix
  | tooManyAliases => "repetition limit exceeded"
  | manyDocuments => "deserializing from YAML containing more than one document is not supported"
  | mismatch message path mark =>
      (if path.text == "." then "" else path.text ++ ": ") ++ message ++ mark.suffix

end Error

end LastGood.Yaml
