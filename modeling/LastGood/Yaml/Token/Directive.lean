import LastGood.Yaml.Token.Tag

/-!
# Directives

A line that starts with a percent sign is a directive: the version of the language, or
the meaning of a tag handle. Behind it only a comment may follow on its line.
-/

namespace LastGood.Yaml.Cursor

/-- What is going on while any directive is read. -/
def directiveActivity : String := "while scanning a directive"

/-- What is going on while a version is read. -/
def versionActivity : String := "while scanning a %YAML directive"

/-- What is going on while the meaning of a handle is read. -/
def handleActivity : String := "while scanning a %TAG directive"

/-- Reads the name of a directive. -/
def readDirectiveName (cursor : Cursor) (start : Mark) :
    Except Problem (String × Cursor) :=
  let (name, after) := cursor.takeWhile isWordChar
  if name.isEmpty then
    .error (after.problem "could not find expected directive name" directiveActivity start)
  else if !isBlankOrEnd after.peek then
    .error (after.problem "found unexpected non-alphabetical character" directiveActivity start)
  else .ok (String.ofList name, after)

/-- Reads one of the two numbers of a version, of at most nine digits. -/
def readVersionNumber (cursor : Cursor) (start : Mark) : Except Problem (Nat × Cursor) :=
  let (digits, after) := cursor.takeWhile isDigitChar
  if 9 < digits.length then
    .error ((cursor.skip 9).problem "found extremely long version number" versionActivity start)
  else if digits.isEmpty then
    .error (after.problem "did not find expected version number" versionActivity start)
  else .ok (digits.foldl (fun total c => total * 10 + (c.toNat - 48)) 0, after)

/-- Reads a version. -/
def readVersion (cursor : Cursor) (start : Mark) : Except Problem (TokenKind × Cursor) := do
  let (major, after) ← cursor.skipBlanks.readVersionNumber start
  if after.sees '.' then
    let (minor, stop) ← after.skip.readVersionNumber start
    return (.versionDirective major minor, stop)
  else
    .error (after.problem "did not find expected digit or '.' character" versionActivity start)

/-- Reads a handle and its meaning. -/
def readHandleMeaning (cursor : Cursor) (start : Mark) :
    Except Problem (TokenKind × Cursor) := do
  let (handle, after) ← cursor.skipBlanks.readHandle .directive start
  if !isBlank after.peek then
    .error (after.problem "did not find expected whitespace" handleActivity start)
  else
    let (expansion, stop) ← after.skipBlanks.readSuffix true .directive start
    if !isBlankOrEnd stop.peek then
      .error (stop.problem "did not find expected whitespace or line break" handleActivity start)
    else return (.tagDirective (String.ofList handle) expansion, stop)

/-- The place behind the rest of a line on which only a comment may stand. -/
def endLine (cursor : Cursor) (activity : String) (start : Mark) : Except Problem Cursor :=
  let stop := cursor.skipBlanks.skipComment
  if isBreakOrEnd stop.peek then .ok stop.skipBreak
  else .error (stop.problem "did not find expected comment or line break" activity start)

/-- Reads a directive: its token, the place where it stops, and the next line. -/
def readDirective (cursor : Cursor) : Except Problem (TokenKind × Mark × Cursor) := do
  let start := cursor.mark
  let (name, after) ← cursor.skip.readDirectiveName start
  let (kind, stop) ←
    if name == "YAML" then after.readVersion start
    else if name == "TAG" then after.readHandleMeaning start
    else .error (after.problem "found unknown directive name" directiveActivity start)
  let next ← stop.endLine directiveActivity start
  return (kind, stop.mark, next)

end LastGood.Yaml.Cursor
