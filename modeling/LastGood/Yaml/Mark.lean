/-!
# Places in a YAML text

A mark is a place in a text: how many octets lie before it, and its line and column,
both counted from zero, the column in characters. A problem says what is wrong with a
text, where it is wrong, and in the course of what it was noticed. Places are shown
counted from one, and the very start of a text is not shown at all.
-/

namespace LastGood.Yaml

/-- A place in a text. -/
structure Mark where
  /-- Number of octets before it. -/
  index : Nat := 0
  /-- Number of line breaks before it. -/
  line : Nat := 0
  /-- Number of characters before it on its line. -/
  column : Nat := 0
  deriving DecidableEq, Repr, Inhabited

namespace Mark

/-- Whether the place is on the first line, before its first character. -/
def isStart (mark : Mark) : Bool := mark.line == 0 && mark.column == 0

/-- The place in words. -/
def text (mark : Mark) : String :=
  "line " ++ toString (mark.line + 1) ++ " column " ++ toString (mark.column + 1)

/-- The place behind the word that introduces it, or nothing for the start. -/
def suffix (mark : Mark) : String := if mark.isStart then "" else " at " ++ mark.text

/-- Whether two places have one line and one column. -/
def coincides (a b : Mark) : Bool := a.line == b.line && a.column == b.column

end Mark

/-- What is wrong with a text. -/
structure Problem where
  /-- What was noticed. -/
  message : String
  /-- Where it was noticed. -/
  mark : Mark := {}
  /-- The number of bytes before a character that no text may hold. -/
  offset : Nat := 0
  /-- What was being read, and where that began. -/
  context : Option (String × Mark) := none
  deriving DecidableEq, Repr

/-- The text of a problem. The place where the context began is left out when it is the
    place of the problem. -/
def Problem.text (problem : Problem) : String :=
  let place :=
    if !problem.mark.isStart then problem.mark.suffix
    else if problem.offset != 0 then " at position " ++ toString problem.offset
    else ""
  let context :=
    match problem.context with
    | none => ""
    | some (activity, start) =>
        ", " ++ activity ++ (if start.coincides problem.mark then "" else start.suffix)
  problem.message ++ place ++ context

end LastGood.Yaml
