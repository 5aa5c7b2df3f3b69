import LastGood.Yaml.Mark

/-!
# Tokens of YAML

The tokens that a text is cut into. The starts of block collections and their common
end have no characters of their own: they are where the indentation grows and shrinks.

A tag can hold any octets, since it may be written with escapes; it is a text only when
these octets are one.
-/

namespace LastGood.Yaml

/-- How a scalar is written. -/
inductive ScalarStyle where
  /-- Without quotes. -/
  | plain
  /-- Between single quotes. -/
  | singleQuoted
  /-- Between double quotes. -/
  | doubleQuoted
  /-- As a block of lines. -/
  | block
  deriving DecidableEq, Repr

/-- What a token is. -/
inductive TokenKind where
  /-- The start of the text. -/
  | streamStart
  /-- The end of the text. -/
  | streamEnd
  /-- A directive with the version of the language. -/
  | versionDirective (major minor : Nat)
  /-- A directive that gives a tag handle its meaning. -/
  | tagDirective (handle : String) (expansion : List UInt8)
  /-- Three hyphens. -/
  | documentStart
  /-- Three dots. -/
  | documentEnd
  /-- Where a block sequence begins. -/
  | blockSequenceStart
  /-- Where a block mapping begins. -/
  | blockMappingStart
  /-- Where a block collection ends. -/
  | blockEnd
  /-- An opening square bracket. -/
  | flowSequenceStart
  /-- A closing square bracket. -/
  | flowSequenceEnd
  /-- An opening brace. -/
  | flowMappingStart
  /-- A closing brace. -/
  | flowMappingEnd
  /-- A hyphen in front of an item. -/
  | blockEntry
  /-- A comma. -/
  | flowEntry
  /-- Where a key begins, with or without a question mark. -/
  | key
  /-- A colon in front of a value. -/
  | value
  /-- A reference to an anchor. -/
  | alias (name : String)
  /-- A name for the node that follows. -/
  | anchor (name : String)
  /-- A tag for the node that follows. -/
  | tag (handle : String) (suffix : List UInt8)
  /-- A scalar. -/
  | scalar (text : String) (style : ScalarStyle)
  deriving DecidableEq, Repr

/-- A token and the part of the text that it covers. -/
structure Token where
  /-- What it is. -/
  kind : TokenKind
  /-- Where it begins. -/
  start : Mark
  /-- Where it ends. -/
  stop : Mark
  deriving DecidableEq, Repr

/-- The tokens of a text, in order, and the problem that cuts them short, if any. -/
structure Tokens where
  /-- The tokens up to the end of the text or to the problem. -/
  tokens : List Token
  /-- Why there are no more. -/
  problem : Option Problem
  deriving DecidableEq, Repr

end LastGood.Yaml
