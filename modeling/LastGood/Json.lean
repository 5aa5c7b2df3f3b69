import LastGood.Reading
import LastGood.Number.Decimal
import LastGood.Text.Hexadecimal
import LastGood.Text.Quoted

/-!
# JSON

A JSON value is a tree without marks. It is written in two layouts: compactly, without
any blank, and spread over lines, where every item and every entry has a line of its
own, two spaces further in than its container. Text is written as it is, except for
the quote, the backslash and the control characters below the space.

When a JSON value cannot be read as a typed one, the message names what was found and
what was expected, without a place.
-/

namespace LastGood

/-- A JSON value. -/
abbrev Json := Tree Unit

namespace Json

/-- One character inside a JSON text. -/
def escapedChar (c : Char) : List Char :=
  if c == '"' then ['\\', '"']
  else if c == '\\' then ['\\', '\\']
  else if c == '\x08' then ['\\', 'b']
  else if c == '\x0c' then ['\\', 'f']
  else if c == '\n' then ['\\', 'n']
  else if c == '\r' then ['\\', 'r']
  else if c == '\t' then ['\\', 't']
  else if c.toNat < 32 then ['\\', 'u'] ++ Text.hexPadded 4 c.toNat
  else [c]

/-- A text as a JSON string. -/
def stringChars (s : String) : List Char :=
  '"' :: s.toList.flatMap escapedChar ++ ['"']

/-- A number as JSON writes it; what is neither finite nor whole is no value. -/
def numberChars : Number → List Char
  | .unsigned n => (toString n).toList
  | .signed n => (toString n).toList
  | .float x => if x.isFinite then (Decimal.scientific x).toList else "null".toList

/-- A line break followed by `depth` steps of two spaces. -/
def lineBreak (depth : Nat) : List Char := '\n' :: List.replicate (2 * depth) ' '

/-- A blank between the parts of a value. -/
def isSpace (c : Char) : Bool := c == ' ' || c == '\n' || c == '\t' || c == '\r'

/-- What stands between the parts of a value: nothing but blanks. -/
structure Layout where
  /-- What stands in front of every item and entry, and of the end of their container, so many
      containers deep. -/
  gap : Nat → List Char
  /-- What stands between the colon behind a key and the value. -/
  space : List Char
  /-- The gaps are blank. -/
  blank_gap : ∀ depth, ∀ c ∈ gap depth, isSpace c = true
  /-- So is the space. -/
  blank_space : ∀ c ∈ space, isSpace c = true

namespace Layout

/-- Items and entries stand on lines of their own. -/
def lines : Layout where
  gap := lineBreak
  space := [' ']
  blank_gap depth c member := by
    rcases List.mem_cons.mp member with rfl | spaces
    · rfl
    · rw [List.eq_of_mem_replicate spaces]
      rfl
  blank_space := by simp [isSpace]

/-- Everything stands on one line without a blank. -/
def dense : Layout where
  gap _ := []
  space := []
  blank_gap := by simp
  blank_space := by simp

mutual

/-- A value inside `depth` containers. -/
def chars (layout : Layout) (depth : Nat) : Json → List Char
  | .null _ => "null".toList
  | .bool _ value => (if value then "true" else "false").toList
  | .number _ value => numberChars value
  | .text _ value => stringChars value
  | .list _ [] => ['[', ']']
  | .list _ (item :: rest) =>
      '[' :: layout.items (depth + 1) (item :: rest) ++ layout.gap depth ++ [']']
  | .map _ [] => ['\x7b', '\x7d']
  | .map _ (entry :: rest) =>
      '\x7b' :: layout.entries (depth + 1) (entry :: rest) ++ layout.gap depth ++ ['\x7d']

/-- Items with commas between them. -/
def items (layout : Layout) (depth : Nat) : List Json → List Char
  | [] => []
  | [item] => layout.gap depth ++ layout.chars depth item
  | item :: rest => layout.gap depth ++ layout.chars depth item ++ ',' :: layout.items depth rest

/-- Entries with commas between them. -/
def entries (layout : Layout) (depth : Nat) : List (String × Json) → List Char
  | [] => []
  | [(key, value)] =>
      layout.gap depth ++ stringChars key ++ ':' :: layout.space ++ layout.chars depth value
  | (key, value) :: rest =>
      layout.gap depth ++ stringChars key ++ ':' :: layout.space ++ layout.chars depth value ++
        ',' :: layout.entries depth rest

end

/-- The text of a value. -/
def text (layout : Layout) (json : Json) : String := String.ofList (layout.chars 0 json)

end Layout

/-- The compact text of a value. -/
def compact (json : Json) : String := Layout.dense.text json

/-- The text of a value spread over lines. -/
def spread (json : Json) : String := Layout.lines.text json

/-- A map with these entries. -/
def object (entries : List (String × Json)) : Json := .map () entries

/-- A text value. -/
def ofString (s : String) : Json := .text () s

/-- A whole number. -/
def ofNat (n : Nat) : Json := .number () (.unsigned n)

/-- JSON refuses items behind the last field of a record written as a list. -/
def strictness : Strictness := ⟨true⟩

/-- What was found, in the words of JSON. -/
def foundText : Found → String
  | .null => "null"
  | .bool value => "boolean `" ++ (if value then "true" else "false") ++ "`"
  | .number (.unsigned n) => "integer `" ++ toString n ++ "`"
  | .number (.signed n) => "integer `" ++ toString n ++ "`"
  | .number (.float x) => "floating point `" ++ Decimal.scientific x ++ "`"
  | .text value => "string " ++ Text.quoted value
  | .list => "sequence"
  | .map => "map"

/-- The known names of a choice, as an expectation. -/
def oneOf : List String → String
  | [] => "there are no variants"
  | [only] => "expected `" ++ only ++ "`"
  | [first, second] => "expected `" ++ first ++ "` or `" ++ second ++ "`"
  | names =>
      "expected one of " ++ String.intercalate ", " (names.map fun name => "`" ++ name ++ "`")

/-- The message for a cause. -/
def message : Cause → String
  | .wrongKind found expected => "invalid type: " ++ foundText found ++ ", expected " ++ expected
  | .wrongValue found expected => "invalid value: " ++ foundText found ++ ", expected " ++ expected
  | .wrongLength length expected =>
      "invalid length " ++ toString length ++ ", expected " ++ expected
  | .unknownVariant name known => "unknown variant `" ++ name ++ "`, " ++ oneOf known
  | .missingField name => "missing field `" ++ name ++ "`"

end Json

end LastGood
