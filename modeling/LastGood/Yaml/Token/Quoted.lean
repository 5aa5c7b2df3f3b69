import LastGood.Text.Hexadecimal
import LastGood.Yaml.Token
import LastGood.Yaml.Token.Gap

/-!
# Quoted scalars

Between single quotes only the quote itself is special, and is written twice. Between
double quotes a backslash starts an escape: a letter for a character, or `x`, `u` or `U`
with two, four or eight hexadecimal digits for its number. A backslash at the end of a
line joins the lines without a space.
-/

namespace LastGood.Yaml

/-- What a backslash and a letter stand for. -/
inductive Escape where
  /-- A character. -/
  | char (c : Char)
  /-- The character whose number follows in so many digits. -/
  | code (digits : Nat)
  deriving DecidableEq, Repr

/-- The escape of a letter. -/
def Escape.ofLetter? : Char → Option Escape
  | '0' => some (.char '\x00')
  | 'a' => some (.char '\x07')
  | 'b' => some (.char '\x08')
  | 't' => some (.char '\t')
  | '\t' => some (.char '\t')
  | 'n' => some (.char '\n')
  | 'v' => some (.char '\x0b')
  | 'f' => some (.char '\x0c')
  | 'r' => some (.char '\r')
  | 'e' => some (.char '\x1b')
  | ' ' => some (.char ' ')
  | '"' => some (.char '"')
  | '/' => some (.char '/')
  | '\\' => some (.char '\\')
  | 'N' => some (.char '\x85')
  | '_' => some (.char '\xa0')
  | 'L' => some (.char '\u2028')
  | 'P' => some (.char '\u2029')
  | 'x' => some (.code 2)
  | 'u' => some (.code 4)
  | 'U' => some (.code 8)
  | _ => none

namespace Quoted

/-- What is going on while lines are followed. -/
def activity : String := "while scanning a quoted scalar"

/-- What is going on while escapes are read. -/
def escapeActivity : String := "while parsing a quoted scalar"

/-- The value of the longest run of digits at the start, at most `count` of them, and
    how many there are. -/
def leadingHex (count : Nat) (cs : List Char) : Nat × Nat :=
  let digits := (cs.take count).takeWhile fun c => (Text.hexValue? c).isSome
  ((Text.hexNumber? digits).getD 0, digits.length)

/-- Reads the escape at a backslash that does not stand before a line break. -/
def readEscape (cursor : Cursor) (start : Mark) : Except Problem (Char × Cursor) :=
  match (cursor.peek 1).bind Escape.ofLetter? with
  | none => .error (cursor.problem "found unknown escape character" escapeActivity start)
  | some (.char c) => .ok (c, cursor.skip 2)
  | some (.code digits) =>
      let after := cursor.skip 2
      let (value, count) := leadingHex digits after.rest
      if count < digits then
        .error (after.problem "did not find expected hexadecimal number" escapeActivity start)
      else if value.isValidChar then .ok (Char.ofNat value, after.skip digits)
      else
        .error (after.problem "found invalid Unicode character escape code" escapeActivity start)

/-- How a run of characters without a gap ended. -/
inductive RunEnd where
  /-- At the closing quote, at a blank or a break, or with the text. -/
  | open
  /-- Behind an escaped line break. -/
  | escapedBreak
  deriving DecidableEq, Repr

/-- Reads characters up to the closing quote or a gap and puts them, last first, in front
    of `done`. Every step takes a character, so `fuel` need not exceed what is ahead. -/
def readRun (single : Bool) (start : Mark) :
    (fuel : Nat) → (done : List Char) → Cursor → Except Problem (List Char × RunEnd × Cursor)
  | 0, done, cursor => .ok (done, .open, cursor)
  | fuel + 1, done, cursor =>
      match cursor.peek with
      | none => .ok (done, .open, cursor)
      | some c =>
          if isBlankChar c || isBreakChar c then .ok (done, .open, cursor)
          else if single && c == '\'' then
            if cursor.peek 1 == some '\'' then
              readRun single start fuel ('\'' :: done) (cursor.skip 2)
            else .ok (done, .open, cursor)
          else if !single && c == '"' then .ok (done, .open, cursor)
          else if !single && c == '\\' then
            if isBreak (cursor.peek 1) then .ok (done, .escapedBreak, cursor.skip.skipBreak)
            else do
              let (value, after) ← readEscape cursor start
              readRun single start fuel (value :: done) after
          else readRun single start fuel (c :: done) cursor.skip

/-- Reads the rest of a quoted scalar; `done` holds its characters so far, last first.
    Every step takes a run or a gap, so `fuel` need not exceed twice what is ahead. -/
def readRest (single : Bool) (start : Mark) :
    (fuel : Nat) → (done : List Char) → Cursor → Except Problem (List Char × Cursor)
  | 0, done, cursor => .ok (done.reverse, cursor)
  | fuel + 1, done, cursor =>
      if cursor.seesDocumentIndicator then
        .error (cursor.problem "found unexpected document indicator" activity start)
      else if cursor.peek.isNone then
        .error (cursor.problem "found unexpected end of stream" activity start)
      else do
        let (run, ending, after) ← readRun single start (cursor.bound + 1) done cursor
        if after.sees (if single then '\'' else '"') then
          return (run.reverse, after.skip)
        else
          let before := if ending == .escapedBreak then Gap.escaped else {}
          let (gap, next) ← Gap.read (fun _ => none) after.bound before after
          readRest single start fuel (gap.text.reverse ++ run) next

/-- Reads a quoted scalar. -/
def read (cursor : Cursor) (single : Bool) : Except Problem (TokenKind × Cursor) := do
  let after := cursor.skip
  let (text, stop) ← readRest single cursor.mark (2 * after.bound + 2) [] after
  return (.scalar (String.ofList text) (if single then .singleQuoted else .doubleQuoted), stop)

end Quoted

end LastGood.Yaml
