import LastGood.Text.Hexadecimal
import LastGood.Yaml.Character
import LastGood.Yaml.Scalar

/-!
# How texts are written

A text is written plainly when it reads back as itself without quotes, and otherwise in
the first of these ways that can hold it: between single quotes, or between double quotes
with escapes. A text with a line feed is written as a literal block if that can hold it.
-/

namespace LastGood.Yaml

/-- Whether a character is written as itself; the mark of byte order is not, and neither
    is the tab. -/
def isShown (c : Char) : Bool :=
  let n := c.toNat
  n == 0x0A || (0x20 ≤ n && n ≤ 0x7E) || (0xA0 ≤ n && n ≤ 0xD7FF) ||
  (0xE000 ≤ n && n ≤ 0xFFFD && n != 0xFEFF) || 0x10000 ≤ n

/-- Whether a plain scalar may not begin with these characters in a block collection. -/
def isIndicatorStart : List Char → Bool
  | [] => false
  | '-' :: '-' :: '-' :: _ | '.' :: '.' :: '.' :: _ => true
  | c :: rest =>
      "#,[]\x7b\x7d&*!|>'\"%@`".toList.contains c ||
        ("?:-".toList.contains c && isBlankOrEnd rest.head?)

/-- Whether a mapping value or a comment would begin somewhere behind the first of these
    characters. -/
def hasInnerIndicator : List Char → Bool
  | before :: c :: rest =>
      (c == ':' && isBlankOrEnd rest.head?) || (c == '#' && isBlankOrEnd (some before)) ||
        hasInnerIndicator (c :: rest)
  | _ => false

/-- Whether two neighbours satisfy a relation. -/
def hasNeighbours (p : Char → Char → Bool) : List Char → Bool
  | a :: b :: rest => p a b || hasNeighbours p (b :: rest)
  | _ => false

/-- Whether a space or a break stands at an end of a text. -/
def hasLooseEnd (cs : List Char) : Bool :=
  let loose (c : Option Char) := c == some ' ' || isBreak c
  loose cs.head? || loose cs.getLast?

/-- Whether a text holds what only double quotes can hold: a character that is not
    written as itself, or a space before a break. -/
def needsEscapes (cs : List Char) : Bool :=
  (cs.any fun c => !isShown c) ||
    hasNeighbours (fun a b => a == ' ' && isBreakChar b) cs

/-- Whether a plain scalar can hold a text. -/
def fitsPlain (cs : List Char) : Bool :=
  !(needsEscapes cs || cs.any isBreakChar || hasLooseEnd cs || isIndicatorStart cs ||
    hasInnerIndicator cs)

/-- Whether single quotes can hold a text. -/
def fitsSingleQuotes (cs : List Char) : Bool :=
  !(needsEscapes cs || hasNeighbours (fun a b => isBreakChar a && b == ' ') cs)

/-- Whether a literal block can hold a text. -/
def fitsLiteral (cs : List Char) : Bool :=
  !(cs.isEmpty || needsEscapes cs || cs.getLast? == some ' ')

/-- Whether a text would not be read as a text without quotes, or looks like a number. -/
def looksTyped (text : String) : Bool :=
  match plainTree text with
  | .text .. => hasLeadingZero text.toList
  | _ => true

/-- How a text is written. As a key it stays on one line. -/
def styleOf (text : String) (isKey : Bool) : ScalarStyle :=
  let cs := text.toList
  let quoted := if fitsSingleQuotes cs then ScalarStyle.singleQuoted else .doubleQuoted
  if isKey && cs.any isBreakChar then .doubleQuoted
  else if cs.contains '\n' then (if fitsLiteral cs then .block else .doubleQuoted)
  else if looksTyped text then quoted
  else if fitsPlain cs then .plain
  else quoted

/-- Spaces up to a column. -/
def spaces (column : Nat) : List Char := List.replicate column ' '

/-- The escape of a character. -/
def escapeChars (c : Char) : List Char :=
  let n := c.toNat
  let letter : Option Char :=
    if n == 0x00 then some '0' else if n == 0x07 then some 'a' else if n == 0x08 then some 'b'
    else if n == 0x09 then some 't' else if n == 0x0A then some 'n' else if n == 0x0B then some 'v'
    else if n == 0x0C then some 'f' else if n == 0x0D then some 'r' else if n == 0x1B then some 'e'
    else if n == 0x22 then some '"' else if n == 0x5C then some '\\' else if n == 0x85 then some 'N'
    else if n == 0xA0 then some '_' else if n == 0x2028 then some 'L'
    else if n == 0x2029 then some 'P' else none
  match letter with
  | some l => ['\\', l]
  | none =>
      if n ≤ 0xFF then '\\' :: 'x' :: Text.hexPaddedUpper 2 n
      else if n ≤ 0xFFFF then '\\' :: 'u' :: Text.hexPaddedUpper 4 n
      else '\\' :: 'U' :: Text.hexPaddedUpper 8 n

/-- A text between double quotes. -/
def doubleQuotedChars (cs : List Char) : List Char :=
  '"' :: (cs.flatMap fun c =>
    if !isShown c || isBreakChar c || c == '"' || c == '\\' then escapeChars c else [c]) ++ ['"']

/-- The characters between single quotes. A line feed that is the first of some breaks is
    written twice, and the first character behind breaks stands at the column. -/
def singleQuotedRest (column : Nat) (afterBreak : Bool) : List Char → List Char
  | [] => if afterBreak then spaces column else []
  | c :: rest =>
      if isBreakChar c then
        (if c == '\n' && !afterBreak then ['\n'] else []) ++ c :: singleQuotedRest column true rest
      else
        (if afterBreak then spaces column else []) ++
          (if c == '\'' then ['\'', '\''] else [c]) ++ singleQuotedRest column false rest

/-- A text between single quotes. -/
def singleQuotedChars (column : Nat) (cs : List Char) : List Char :=
  '\'' :: singleQuotedRest column false cs ++ ['\'']

/-- The lines of a literal block, each at the column unless it is empty. -/
def literalLines (column : Nat) (atStart : Bool) : List Char → List Char
  | [] => []
  | c :: rest =>
      if isBreakChar c then c :: literalLines column true rest
      else (if atStart then spaces column else []) ++ c :: literalLines column false rest

/-- The header of a literal block: its indentation if its first line does not show it, and
    what becomes of the breaks at its end. -/
def literalHeader (cs : List Char) : List Char :=
  let indentation := if cs.head? == some ' ' || isBreak cs.head? then ['2'] else []
  let chomping :=
    match cs.reverse with
    | last :: before =>
        if !isBreakChar last then ['-']
        else if before.isEmpty || isBreak before.head? then ['+'] else []
    | [] => ['-']
  '|' :: indentation ++ chomping

/-- A text as a scalar whose further lines stand at a column. -/
def scalarChars (column : Nat) (isKey : Bool) (text : String) : List Char :=
  let cs := text.toList
  match styleOf text isKey with
  | .plain => cs
  | .singleQuoted => singleQuotedChars column cs
  | .doubleQuoted => doubleQuotedChars cs
  | .block => literalHeader cs ++ '\n' :: literalLines column true cs

end LastGood.Yaml
