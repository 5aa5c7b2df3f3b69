import LastGood.Text.Octets
import LastGood.Yaml.Character
import LastGood.Yaml.Mark

/-!
# Cursors

A cursor is a place in a text together with the characters that follow it. It moves
over one character or over one line break at a time; a carriage return with a line
feed behind it is one break and two characters. It knows a bound of what is ahead, which
is enough fuel for whatever takes at least one character with every step.
-/

namespace LastGood.Yaml

/-- A place in a text and what follows it. -/
structure Cursor where
  /-- The characters ahead. -/
  rest : List Char
  /-- Where they begin. -/
  mark : Mark := {}
  /-- A number that they do not exceed. -/
  bound : Nat := rest.length
  /-- They do not exceed the bound. -/
  length_le_bound : rest.length ≤ bound := by exact Nat.le_refl _
  deriving DecidableEq, Repr

namespace Cursor

/-- The character a few places ahead. -/
def peek (cursor : Cursor) (ahead : Nat := 0) : Option Char := cursor.rest[ahead]?

/-- Whether the next character is this one. -/
def sees (cursor : Cursor) (c : Char) : Bool := cursor.peek == some c

/-- What is left behind some characters does not exceed the bound either. -/
theorem drop_le_bound (cursor : Cursor) (count : Nat) :
    (cursor.rest.drop count).length ≤ cursor.bound :=
  Nat.le_trans (by simp) cursor.length_le_bound

/-- The cursor behind some characters none of which breaks a line. -/
def skip (cursor : Cursor) (count : Nat := 1) : Cursor :=
  { rest := cursor.rest.drop count
    mark := { cursor.mark with
      index := cursor.mark.index + Text.octetCount (cursor.rest.take count)
      column := cursor.mark.column + count }
    bound := cursor.bound
    length_le_bound := cursor.drop_le_bound count }

/-- The cursor at the start of the line after a break of `width` characters. -/
def nextLine (cursor : Cursor) (width : Nat) : Cursor :=
  { rest := cursor.rest.drop width
    mark :=
      { index := cursor.mark.index + Text.octetCount (cursor.rest.take width)
        line := cursor.mark.line + 1, column := 0 }
    bound := cursor.bound
    length_le_bound := cursor.drop_le_bound width }

/-- The cursor behind a line break, if there is one here. -/
def skipBreak (cursor : Cursor) : Cursor :=
  match cursor.rest with
  | '\r' :: '\n' :: _ => cursor.nextLine 2
  | c :: _ => if isBreakChar c then cursor.nextLine 1 else cursor
  | [] => cursor

/-- A line break as the value it has in a scalar, and the cursor behind it. Without a
    break here there is no value, and the cursor stays. -/
def readBreak (cursor : Cursor) : List Char × Cursor :=
  match cursor.rest with
  | '\r' :: '\n' :: _ => (['\n'], cursor.nextLine 2)
  | c :: _ => if isBreakChar c then ([breakValue c], cursor.nextLine 1) else ([], cursor)
  | [] => ([], cursor)

/-- The longest run of characters with a property, none of which may break a line, and
    the cursor behind it. -/
def takeWhile (cursor : Cursor) (p : Char → Bool) : List Char × Cursor :=
  let run := cursor.rest.takeWhile p
  (run, cursor.skip run.length)

/-- The cursor behind the spaces and tabs ahead. -/
def skipBlanks (cursor : Cursor) : Cursor := (cursor.takeWhile isBlankChar).2

/-- The cursor at the end of the line, if a comment starts here. -/
def skipComment (cursor : Cursor) : Cursor :=
  if cursor.sees '#' then (cursor.takeWhile fun c => !isBreakChar c).2 else cursor

/-- Whether a line starts here with three of the same character, and nothing sticks to
    them. -/
def seesIndicator (cursor : Cursor) (c : Char) : Bool :=
  cursor.mark.column == 0 && cursor.peek == some c && cursor.peek 1 == some c &&
    cursor.peek 2 == some c && isBlankOrEnd (cursor.peek 3)

/-- Whether a line starts here with the mark of a document's start or end. -/
def seesDocumentIndicator (cursor : Cursor) : Bool :=
  cursor.seesIndicator '-' || cursor.seesIndicator '.'

/-- The problem that something is wrong at the cursor. -/
def problem (cursor : Cursor) (message activity : String) (start : Mark) : Problem :=
  { message, mark := cursor.mark, context := some (activity, start) }

end Cursor

end LastGood.Yaml
