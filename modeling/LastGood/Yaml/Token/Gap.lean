import LastGood.Yaml.Cursor

/-!
# Gaps inside scalars

Between two words of a flow scalar stands a gap: blanks on one line, or one break or
more with blanks around them. Blanks on one line are kept. A single line feed becomes a
space, and of several the first is dropped; a separator of lines or paragraphs as the
first break is kept.
-/

namespace LastGood.Yaml

/-- What stands between two words of a scalar. -/
structure Gap where
  /-- The blanks before the first break. -/
  blanks : List Char := []
  /-- Whether a line was broken. -/
  broken : Bool := false
  /-- The first break; nothing if it was escaped. -/
  first : List Char := []
  /-- The breaks behind it. -/
  more : List Char := []
  deriving DecidableEq, Repr

namespace Gap

/-- The gap behind an escaped line break. -/
def escaped : Gap := { broken := true }

/-- What breaks become, when the first of them may be folded into a space. -/
def folded (first more : List Char) : List Char :=
  if first == ['\n'] then (if more.isEmpty then [' '] else more) else first ++ more

/-- What a gap contributes to the value of the scalar. -/
def text (gap : Gap) : List Char :=
  if gap.broken then folded gap.first gap.more else gap.blanks

/-- The gap with a line break behind it. -/
def withBreak (gap : Gap) (value : List Char) : Gap :=
  if gap.broken then { gap with more := gap.more ++ value }
  else { broken := true, first := value }

/-- The gap with a blank behind it; blanks behind a break are dropped. -/
def withBlank (gap : Gap) (c : Char) : Gap :=
  if gap.broken then gap else { gap with blanks := gap.blanks ++ [c] }

/-- Reads the rest of a gap. What `tabProblem` says of a tab on a new line is raised
    there. Every step takes a character, so `fuel` need not exceed what is ahead. -/
def read (tabProblem : Cursor → Option Problem) :
    (fuel : Nat) → Gap → Cursor → Except Problem (Gap × Cursor)
  | 0, gap, cursor => .ok (gap, cursor)
  | fuel + 1, gap, cursor =>
      match cursor.peek with
      | some c =>
          if isBlankChar c then
            match if c == '\t' && gap.broken then tabProblem cursor else none with
            | some problem => .error problem
            | none => read tabProblem fuel (gap.withBlank c) cursor.skip
          else if isBreakChar c then
            let (value, next) := cursor.readBreak
            read tabProblem fuel (gap.withBreak value) next
          else .ok (gap, cursor)
      | none => .ok (gap, cursor)

end Gap

end LastGood.Yaml
