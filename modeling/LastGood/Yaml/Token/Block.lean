import LastGood.Yaml.Token.Directive
import LastGood.Yaml.Token.Gap

/-!
# Block scalars

A block scalar is a run of lines with one indentation, which is given in its header or
is that of its first line that is not empty. A literal one keeps its breaks; in a folded
one a break between two lines that do not start with a blank becomes a space. What
becomes of the breaks at the end is said in the header: all are kept, or none, or only
the first.
-/

namespace LastGood.Yaml

/-- What becomes of the breaks at the end of a block scalar. -/
inductive Chomping where
  /-- The first one is kept. -/
  | clip
  /-- None is kept. -/
  | strip
  /-- All are kept. -/
  | keep
  deriving DecidableEq, Repr

namespace Block

/-- What is going on while a block scalar is read. -/
def activity : String := "while scanning a block scalar"

/-- The chomping that a character asks for. -/
def chompingOf? (c : Option Char) : Option Chomping :=
  if c == some '+' then some .keep else if c == some '-' then some .strip else none

/-- Reads the digit that gives the indentation, if there is one. -/
def readIndicator (cursor : Cursor) (start : Mark) : Except Problem (Option Nat × Cursor) :=
  match cursor.peek with
  | some c =>
      if c == '0' then
        .error (cursor.problem "found an indentation indicator equal to 0" activity start)
      else if isDigitChar c then .ok (some (c.toNat - 48), cursor.skip)
      else .ok (none, cursor)
  | none => .ok (none, cursor)

/-- Reads the header behind its first character: chomping and indentation, in any order. -/
def readHeader (cursor : Cursor) (start : Mark) :
    Except Problem (Chomping × Option Nat × Cursor) :=
  match chompingOf? cursor.peek with
  | some chomping => do
      let (digit, after) ← readIndicator cursor.skip start
      return (chomping, digit, after)
  | none => do
      let (digit, after) ← readIndicator cursor start
      match digit, chompingOf? after.peek with
      | some _, some chomping => return (chomping, digit, after.skip)
      | _, _ => return (.clip, digit, after)

/-- What stands between two lines: how far their indentation could be seen to go, the
    breaks of the empty lines, and where the last of them ends. -/
structure Margin where
  /-- The greatest column that spaces led to. -/
  reach : Nat := 0
  /-- The breaks of the empty lines. -/
  breaks : List Char := []
  /-- Where the last break ends. -/
  stop : Mark

/-- Reads the spaces of the indentation and the empty lines up to the next line. An
    `indent` of `none` is not known yet, and takes all spaces. Every step takes a line,
    so `fuel` need not exceed what is ahead. -/
def readMargin (indent : Option Nat) (start : Mark) :
    (fuel : Nat) → Margin → Cursor → Except Problem (Margin × Cursor)
  | 0, margin, cursor => .ok (margin, cursor)
  | fuel + 1, margin, cursor =>
      let spaces := (cursor.rest.takeWhile (· == ' ')).length
      let width :=
        match indent with
        | none => spaces
        | some column => min spaces (column - cursor.mark.column)
      let after := cursor.skip width
      let opens := indent.all (after.mark.column < ·)
      if opens && after.sees '\t' then
        .error (after.problem "found a tab character where an indentation space is expected"
          activity start)
      else
        let seen := { margin with reach := max margin.reach after.mark.column }
        match after.readBreak with
        | ([], _) => .ok (seen, after)
        | (value, next) =>
            readMargin indent start fuel
              { seen with breaks := seen.breaks ++ value, stop := next.mark } next

/-- A block scalar that is being read. -/
structure Lines where
  /-- Its value so far, the last character first. -/
  text : List Char := []
  /-- The break behind the last line. -/
  leading : List Char := []
  /-- Whether the last line started with a blank. -/
  blankBefore : Bool := false
  /-- What stands behind the last line. -/
  margin : Margin
  /-- The place behind it. -/
  cursor : Cursor

/-- What stands in the value between the last line and the next one, which starts with a
    blank or not. -/
def Lines.joint (lines : Lines) (literal blankNext : Bool) : List Char :=
  if !literal && lines.leading == ['\n'] && !lines.blankBefore && !blankNext then
    if lines.margin.breaks.isEmpty then [' '] else lines.margin.breaks
  else lines.leading ++ lines.margin.breaks

/-- Reads the lines that stand at the column of the indentation. Every step takes a line,
    so `fuel` need not exceed what is ahead. -/
def readLines (literal : Bool) (indent : Nat) (start : Mark) :
    (fuel : Nat) → Lines → Except Problem Lines
  | 0, lines => .ok lines
  | fuel + 1, lines =>
      let cursor := lines.cursor
      if cursor.mark.column != indent || cursor.peek.isNone then .ok lines
      else do
        let blankNext := isBlank cursor.peek
        let (line, after) := cursor.takeWhile fun c => !isBreakChar c
        let (leading, next) := after.readBreak
        let (margin, place) ←
          readMargin (some indent) start (next.bound + 1) { stop := next.mark } next
        readLines literal indent start fuel
          { text := line.reverse ++ ((lines.joint literal blankNext).reverse ++ lines.text)
            leading, blankBefore := blankNext, margin, cursor := place }

/-- Reads a block scalar inside a collection whose indentation is `outer`: its token, the
    place where it stops, and the place behind it. -/
def read (cursor : Cursor) (literal : Bool) (outer : Int) :
    Except Problem (TokenKind × Mark × Cursor) := do
  let start := cursor.mark
  let (chomping, digit, header) ← readHeader cursor.skip start
  let next ← header.endLine activity start
  let given := digit.map fun n => (max outer 0).toNat + n
  let (margin, place) ← readMargin given start (next.bound + 1) { stop := next.mark } next
  let indent := given.getD (max margin.reach (max (outer + 1) 1).toNat)
  let lines ← readLines literal indent start (place.bound + 1) { margin, cursor := place }
  let ending :=
    match chomping with
    | .strip => []
    | .clip => lines.leading
    | .keep => lines.leading ++ lines.margin.breaks
  let text := String.ofList (lines.text.reverse ++ ending)
  return (.scalar text .block, lines.margin.stop, lines.cursor)

end Block

end LastGood.Yaml
