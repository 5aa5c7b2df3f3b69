import LastGood.Yaml.Intake
import LastGood.Yaml.Token.Block
import LastGood.Yaml.Token.Plain
import LastGood.Yaml.Token.Quoted

/-!
# From text to tokens

A text is cut into tokens from its start. Outside flow collections the column of a token
decides which block collections end before it and whether a new one begins. Where a key
may stand without a question mark, the place is remembered; if a colon follows on the same
line and soon enough, the token of the key is put in front of what was read since.

A token in front of which the token of a key may still be put is not final. When a
problem stops the reading, the tokens before it that were final are delivered. So it is
when what must be seen cannot be read.
-/

namespace LastGood.Yaml

/-- A place where a key may begin that has no question mark. -/
structure PendingKey where
  /-- Whether the place can hold nothing but a key. -/
  required : Bool
  /-- How many flow collections are around it. -/
  level : Nat
  /-- The number of the token that stands there. -/
  number : Nat
  /-- Where the place is. -/
  mark : Mark
  deriving DecidableEq, Repr

/-- A text that is being cut into tokens. -/
structure Lexer where
  /-- What is left of the text. -/
  cursor : Cursor
  /-- The column of the innermost block collection, or minus one outside of all. -/
  indent : Int := -1
  /-- The columns of the collections around it, the innermost first. -/
  outerIndents : List Int := []
  /-- How many flow collections are open. -/
  level : Nat := 0
  /-- The pending keys, the innermost first; there is at most one on a level. -/
  keys : List PendingKey := []
  /-- Whether a key without a question mark may begin here. -/
  keyAllowed : Bool := true
  /-- The tokens so far, the last first. -/
  tokens : List Token
  /-- How many tokens there are so far. -/
  count : Nat
  deriving Repr

namespace Lexer

/-- The number of octets that a key without a question mark may have. -/
def keyLimit : Nat := 1024

/-- Whether a flow collection is open. -/
def inFlow (lexer : Lexer) : Bool := lexer.level != 0

/-- The pending key of the innermost open collection. -/
def key? (lexer : Lexer) : Option PendingKey :=
  lexer.keys.head?.filter fun key => key.level == lexer.level

/-- Where the lexer stands. -/
def mark (lexer : Lexer) : Mark := lexer.cursor.mark

/-- The column where the lexer stands. -/
def column (lexer : Lexer) : Int := lexer.mark.column

/-- The problem that a token may not stand here. -/
def misplaced (lexer : Lexer) (message : String) : Problem :=
  { message, mark := lexer.mark }

/-- The problem that a key has no value. -/
def keyWithoutValue (lexer : Lexer) (key : PendingKey) : Problem :=
  lexer.cursor.problem "could not find expected ':'" "while scanning a simple key" key.mark

/-- The lexer with a token added. -/
def emit (lexer : Lexer) (kind : TokenKind) (start stop : Mark) : Lexer :=
  { lexer with tokens := ⟨kind, start, stop⟩ :: lexer.tokens, count := lexer.count + 1 }

/-- The lexer with a token without characters put in front of the token with a number, or
    added if there is none with that number. -/
def emitBefore (lexer : Lexer) (number : Nat) (kind : TokenKind) (place : Mark) : Lexer :=
  { lexer with
    tokens := lexer.tokens.insertIdx (lexer.count - number) ⟨kind, place, place⟩
    count := lexer.count + 1 }

/-- The lexer with a token without characters added. -/
def emitHere (lexer : Lexer) (kind : TokenKind) : Lexer :=
  lexer.emit kind lexer.mark lexer.mark

/-- The lexer with a token of some characters added, and behind them. -/
def emitSkipping (lexer : Lexer) (kind : TokenKind) (width : Nat := 1) : Lexer :=
  let after := lexer.cursor.skip width
  { lexer.emit kind lexer.mark after.mark with cursor := after }

/-- Whether the lexer is too far behind the place of a key. -/
def isStale (lexer : Lexer) (key : PendingKey) : Bool :=
  key.mark.line < lexer.mark.line || key.mark.index + keyLimit < lexer.mark.index

/-- Gives up the pending keys that the lexer is too far behind. Only a key outside of all
    flow collections can be required, so there is at most one that must not be given up. -/
def dropStaleKeys (lexer : Lexer) : Except Problem Lexer :=
  match lexer.keys.find? fun key => key.required && lexer.isStale key with
  | some key => .error (lexer.keyWithoutValue key)
  | none => .ok { lexer with keys := lexer.keys.filter fun key => !lexer.isStale key }

/-- Gives up the pending key of the innermost open collection. -/
def dropKey (lexer : Lexer) : Except Problem Lexer :=
  match lexer.key? with
  | some key =>
      if key.required then .error (lexer.keyWithoutValue key)
      else .ok { lexer with keys := lexer.keys.drop 1 }
  | none => .ok lexer

/-- Remembers the place as one where a key may begin, if it may. -/
def noteKey (lexer : Lexer) : Except Problem Lexer :=
  if lexer.keyAllowed then do
    let free ← lexer.dropKey
    let required := !lexer.inFlow && lexer.indent == lexer.column
    let key : PendingKey := ⟨required, lexer.level, lexer.count, lexer.mark⟩
    return { free with keys := key :: free.keys }
  else .ok lexer

/-- Begins a block collection at a column that is further in. Its token is put in front
    of the token with the given number. -/
def openBlock (lexer : Lexer) (kind : TokenKind) (place : Mark) (number : Nat) : Lexer :=
  if lexer.inFlow || (place.column : Int) ≤ lexer.indent then lexer
  else
    { lexer.emitBefore number kind place with
      indent := place.column, outerIndents := lexer.indent :: lexer.outerIndents }

/-- Begins a block collection here, if this is further in. -/
def openBlockHere (lexer : Lexer) (kind : TokenKind) : Lexer :=
  lexer.openBlock kind lexer.mark lexer.count

/-- Ends the block collections whose columns are greater than this one. -/
def closeBlocks (column : Int) (lexer : Lexer) : List Int → Lexer
  | [] => lexer
  | outer :: others =>
      if column < lexer.indent then
        closeBlocks column
          { lexer.emitHere .blockEnd with indent := outer, outerIndents := others } others
      else lexer

/-- Ends the block collections that are further in than a column, outside of flow
    collections. -/
def leaveBlocks (lexer : Lexer) (column : Int) : Lexer :=
  if lexer.inFlow then lexer else closeBlocks column lexer lexer.outerIndents

/-- The lexer at the next token, behind blanks, comments and breaks. A line may start with
    a byte order mark. Tabs are no blanks where a key may begin a block line. Every step
    takes a line, so `fuel` need not exceed what is ahead. -/
def skipToToken : (fuel : Nat) → Lexer → Lexer
  | 0, lexer => lexer
  | fuel + 1, lexer =>
      let start :=
        if lexer.mark.column == 0 && lexer.cursor.sees '\ufeff' then lexer.cursor.skip
        else lexer.cursor
      let tabs := lexer.inFlow || !lexer.keyAllowed
      let (_, after) := start.takeWhile fun c => c == ' ' || (tabs && c == '\t')
      let stop := after.skipComment
      if isBreak stop.peek then
        skipToToken fuel
          { lexer with cursor := stop.skipBreak, keyAllowed := !lexer.inFlow || lexer.keyAllowed }
      else { lexer with cursor := stop }

/-- Ends everything before a directive or the mark of a document. -/
def leaveDocument (lexer : Lexer) : Except Problem Lexer := do
  let free ← (lexer.leaveBlocks (-1)).dropKey
  return { free with keyAllowed := false }

/-- The end of the text. It always stands at the start of a line. -/
def readEnd (lexer : Lexer) : Except Problem Lexer := do
  let mark := lexer.mark
  let place := if mark.column == 0 then mark else { mark with column := 0, line := mark.line + 1 }
  let free ← { lexer with cursor := { lexer.cursor with mark := place } }.leaveDocument
  return free.emitHere .streamEnd

/-- A directive. -/
def readDirective (lexer : Lexer) : Except Problem Lexer := do
  let free ← lexer.leaveDocument
  let (kind, stop, next) ← free.cursor.readDirective
  return { free.emit kind free.mark stop with cursor := next }

/-- The start or the end of a document. -/
def readDocumentMark (lexer : Lexer) (kind : TokenKind) : Except Problem Lexer := do
  let free ← lexer.leaveDocument
  return free.emitSkipping kind 3

/-- The start of a flow collection. -/
def readFlowStart (lexer : Lexer) (kind : TokenKind) : Except Problem Lexer := do
  let noted ← lexer.noteKey
  return { noted.emitSkipping kind with keyAllowed := true, level := noted.level + 1 }

/-- The end of a flow collection. -/
def readFlowEnd (lexer : Lexer) (kind : TokenKind) : Except Problem Lexer := do
  let free ← lexer.dropKey
  return { free.emitSkipping kind with keyAllowed := false, level := free.level - 1 }

/-- A comma. -/
def readFlowEntry (lexer : Lexer) : Except Problem Lexer := do
  let free ← lexer.dropKey
  return { free.emitSkipping .flowEntry with keyAllowed := true }

/-- The hyphen in front of an item. -/
def readBlockEntry (lexer : Lexer) : Except Problem Lexer :=
  if !lexer.inFlow && !lexer.keyAllowed then
    .error (lexer.misplaced "block sequence entries are not allowed in this context")
  else do
    let free ← (lexer.openBlockHere .blockSequenceStart).dropKey
    return { free.emitSkipping .blockEntry with keyAllowed := true }

/-- The question mark in front of a key. -/
def readKey (lexer : Lexer) : Except Problem Lexer :=
  if !lexer.inFlow && !lexer.keyAllowed then
    .error (lexer.misplaced "mapping keys are not allowed in this context")
  else do
    let free ← (lexer.openBlockHere .blockMappingStart).dropKey
    return { free.emitSkipping .key with keyAllowed := !lexer.inFlow }

/-- The colon in front of a value. What was pending becomes a key. -/
def readValue (lexer : Lexer) : Except Problem Lexer :=
  match lexer.key? with
  | some key =>
      let keyed := { lexer.emitBefore key.number .key key.mark with keys := lexer.keys.drop 1 }
      let opened := keyed.openBlock .blockMappingStart key.mark key.number
      .ok { opened.emitSkipping .value with keyAllowed := false }
  | none =>
      if !lexer.inFlow && !lexer.keyAllowed then
        .error (lexer.misplaced "mapping values are not allowed in this context")
      else
        let opened := lexer.openBlockHere .blockMappingStart
        .ok { opened.emitSkipping .value with keyAllowed := !lexer.inFlow }

/-- A token that may begin a key, and behind which no key may begin. -/
def readKeyStart (lexer : Lexer) (read : Cursor → Except Problem (TokenKind × Cursor)) :
    Except Problem Lexer := do
  let noted ← lexer.noteKey
  let (kind, next) ← read lexer.cursor
  return { noted.emit kind lexer.mark next.mark with cursor := next, keyAllowed := false }

/-- A block scalar. -/
def readBlockScalar (lexer : Lexer) (literal : Bool) : Except Problem Lexer := do
  let free ← lexer.dropKey
  let (kind, stop, next) ← Block.read lexer.cursor literal lexer.indent
  return { free.emit kind lexer.mark stop with cursor := next, keyAllowed := true }

/-- A plain scalar. A key may begin behind it if it ends with its line. -/
def readPlain (lexer : Lexer) : Except Problem Lexer := do
  let noted ← lexer.noteKey
  let plain ← Plain.read lexer.cursor lexer.inFlow (lexer.indent + 1)
  let kind := .scalar (String.ofList plain.text.reverse) .plain
  return { noted.emit kind lexer.mark plain.stop with
    cursor := plain.cursor, keyAllowed := plain.broken }

/-- Whether a plain scalar may begin with this character whatever follows it. -/
def startsPlain (c : Char) : Bool :=
  !(isBlankChar c || isBreakChar c || "-?:,[]\x7b\x7d#&*!|>'\"%@`".toList.contains c)

/-- Reads the token that begins here. -/
def readToken (lexer : Lexer) : Except Problem Lexer :=
  let cursor := lexer.cursor
  match cursor.peek with
  | none => lexer.readEnd
  | some c =>
      let wordFollows := !isBlankOrEnd (cursor.peek 1)
      if c == '%' && cursor.mark.column == 0 then lexer.readDirective
      else if cursor.seesIndicator '-' then lexer.readDocumentMark .documentStart
      else if cursor.seesIndicator '.' then lexer.readDocumentMark .documentEnd
      else if c == '[' then lexer.readFlowStart .flowSequenceStart
      else if c == '\x7b' then lexer.readFlowStart .flowMappingStart
      else if c == ']' then lexer.readFlowEnd .flowSequenceEnd
      else if c == '\x7d' then lexer.readFlowEnd .flowMappingEnd
      else if c == ',' then lexer.readFlowEntry
      else if c == '-' && !wordFollows then lexer.readBlockEntry
      else if c == '?' && (lexer.inFlow || !wordFollows) then lexer.readKey
      else if c == ':' && (lexer.inFlow || !wordFollows) then lexer.readValue
      else if c == '*' then lexer.readKeyStart Cursor.readAlias
      else if c == '&' then lexer.readKeyStart Cursor.readAnchor
      else if c == '!' then lexer.readKeyStart (·.readTag lexer.inFlow)
      else if c == '|' && !lexer.inFlow then lexer.readBlockScalar true
      else if c == '>' && !lexer.inFlow then lexer.readBlockScalar false
      else if c == '\'' then lexer.readKeyStart (Quoted.read · true)
      else if c == '"' then lexer.readKeyStart (Quoted.read · false)
      else if startsPlain c || c == '-' || ((c == '?' || c == ':') && wordFollows) then
        lexer.readPlain
      else
        .error (cursor.problem "found character that cannot start any token"
          "while scanning for the next token" cursor.mark)

/-- The lexer, if as many characters are ahead as must be seen. When there are fewer,
    `unreadable` says what is wrong with what follows, if anything follows. -/
def seeing (unreadable : Option Problem) (count : Nat) (lexer : Lexer) : Except Problem Lexer :=
  match unreadable with
  | some problem =>
      if (lexer.cursor.rest.drop (count - 1)).isEmpty then .error problem else .ok lexer
  | none => .ok lexer

/-- Reads the token that begins here, as far as it can be read. What is wrong with a token
    at the end of what can be read is wrong because it cannot be read. -/
def readWithin (unreadable : Option Problem) (lexer : Lexer) : Except Problem Lexer :=
  match unreadable, lexer.readToken with
  | some reason, .error problem =>
      if lexer.mark.index + Text.octetCount lexer.cursor.rest ≤ problem.mark.index then
        .error reason
      else .error problem
  | _, .error problem => .error problem
  | _, .ok next => next.seeing unreadable 1

/-- Reads one token, with the block collections that end before it. Which token begins is
    told by four characters at most, and so many must be seen. -/
def step (unreadable : Option Problem) (lexer : Lexer) : Except Problem Lexer := do
  let near ← (skipToToken (lexer.cursor.bound + 1) lexer).seeing unreadable 1
  let here ← near.dropStaleKeys
  let ready ← (here.leaveBlocks here.column).seeing unreadable 4
  let next ← ready.readWithin unreadable
  next.dropStaleKeys

/-- The number of tokens that are final. -/
def finalCount (lexer : Lexer) : Nat :=
  lexer.keys.foldl (fun n key => min n key.number) lexer.count

/-- Whether the end of the text has been read. -/
def isDone (lexer : Lexer) : Bool := lexer.tokens.head?.any fun token => token.kind == .streamEnd

/-- Reads tokens up to the end of what can be read. Every step takes a character or reads
    the end, so `fuel` need not exceed what is ahead by more than one. -/
def run (unreadable : Option Problem) : (fuel : Nat) → Lexer → Tokens
  | 0, lexer => ⟨lexer.tokens.reverse, none⟩
  | fuel + 1, lexer =>
      if lexer.isDone then ⟨lexer.tokens.reverse, none⟩
      else
        match lexer.step unreadable with
        | .ok next => run unreadable fuel next
        | .error problem => ⟨lexer.tokens.reverse.take lexer.finalCount, some problem⟩

/-- A text from its start. -/
def start (cs : List Char) : Lexer :=
  { cursor := { rest := cs }, tokens := [⟨.streamStart, {}, {}⟩], count := 1 }

end Lexer

/-- The tokens of a text, as far as it can be read. -/
def Tokens.ofText (text : String) : Tokens :=
  let intake := Intake.ofList text.toList
  (Lexer.start intake.readable).run intake.problem (intake.readable.length + 2)

end LastGood.Yaml
