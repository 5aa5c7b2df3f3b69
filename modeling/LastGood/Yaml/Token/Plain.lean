import LastGood.Yaml.Token
import LastGood.Yaml.Token.Gap

/-!
# Plain scalars

A plain scalar is a sequence of words without quotes. A word ends at a blank, at a
break, at a colon with a blank behind it, and inside a flow collection also at a comma,
a bracket or a brace. The scalar ends where no word can follow: at a comment, at the
mark of a document, and in a block collection at a line that is not indented further
than the collection.
-/

namespace LastGood.Yaml

namespace Plain

/-- Whether a character structures flow collections. -/
def isFlowIndicator (c : Char) : Bool := ",[]\x7b\x7d".toList.contains c

/-- Whether a word cannot go on with these characters. -/
def wordEnds (inFlow : Bool) : List Char → Bool
  | [] => true
  | c :: rest =>
      isBlankChar c || isBreakChar c || (c == ':' && isBlankOrEnd rest.head?) ||
        (inFlow && (isFlowIndicator c ||
          (c == ':' && rest.head?.any fun next => isFlowIndicator next || next == '?')))

/-- The word at the start of these characters. -/
def word (inFlow : Bool) : List Char → List Char
  | [] => []
  | c :: rest => if wordEnds inFlow (c :: rest) then [] else c :: word inFlow rest

end Plain

/-- A plain scalar that has been read. -/
structure Plain where
  /-- Its value, the last character first. -/
  text : List Char
  /-- Where its last word ends. -/
  stop : Mark
  /-- The place behind the gap after it. -/
  cursor : Cursor
  /-- Whether that gap breaks a line. -/
  broken : Bool

namespace Plain

/-- What is going on while a plain scalar is read. -/
def activity : String := "while scanning a plain scalar"

/-- Whether a colon stands here that has no blank behind it but an indicator. -/
def seesStrayColon (inFlow : Bool) (cursor : Cursor) : Bool :=
  inFlow && cursor.sees ':' &&
    (cursor.peek 1).any fun next => isFlowIndicator next || next == '?'

/-- The problem of a tab on a new line, if it stands where indentation is expected. -/
def tabProblem (indent : Int) (start : Mark) (cursor : Cursor) : Option Problem :=
  if (cursor.mark.column : Int) < indent then
    some (cursor.problem "found a tab character that violates indentation" activity start)
  else none

/-- Reads the words that follow `done`. Every step takes a word, so `fuel` need not
    exceed what is ahead. -/
def readWords (inFlow : Bool) (indent : Int) (start : Mark) :
    (fuel : Nat) → (done : Plain) → Gap → Except Problem Plain
  | 0, done, _ => .ok done
  | fuel + 1, done, gap =>
      let cursor := done.cursor
      let ended := { done with broken := gap.broken }
      if cursor.seesDocumentIndicator || cursor.sees '#' then .ok ended
      else
        let letters := word inFlow cursor.rest
        let after := cursor.skip letters.length
        if seesStrayColon inFlow after then
          .error (after.problem "found unexpected ':'" activity start)
        else if letters.isEmpty then .ok ended
        else
          let longer : Plain :=
            { text := letters.reverse ++ (gap.text.reverse ++ done.text)
              stop := after.mark, cursor := after, broken := false }
          if !(after.peek.any fun c => isBlankChar c || isBreakChar c) then .ok longer
          else do
            let (next, place) ← Gap.read (tabProblem indent start) after.bound {} after
            if !inFlow && (place.mark.column : Int) < indent then
              return { longer with cursor := place, broken := next.broken }
            else readWords inFlow indent start fuel { longer with cursor := place } next

/-- Reads a plain scalar inside a collection that is indented by less than `indent`. -/
def read (cursor : Cursor) (inFlow : Bool) (indent : Int) : Except Problem Plain :=
  readWords inFlow indent cursor.mark (cursor.bound + 1)
    { text := [], stop := cursor.mark, cursor, broken := false } {}

end Plain

end LastGood.Yaml
