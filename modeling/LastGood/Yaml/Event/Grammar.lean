import LastGood.Yaml.Event

/-!
# From tokens to events

The grammar of one document is followed with a stack of expectations, each of which
names what must come next. A node that is missing where one may be missing is an empty
plain scalar. The events before a problem stay valid, and a text may hold more than the
one document, which is noted and not followed.
-/

namespace LastGood.Yaml

/-- Where a node stands. -/
inductive NodePlace where
  /-- In a block collection, or in the document itself. -/
  | block
  /-- Behind a key or a colon of a block mapping, where the items of a list need not be
      indented. -/
  | entry
  /-- In a flow collection. -/
  | flow
  deriving DecidableEq, Repr

/-- What must come next. The marks are the starts of the collections. -/
inductive Expected where
  /-- A node. -/
  | node (place : NodePlace)
  /-- An item of a block sequence, or its end. -/
  | blockItem (start : Mark)
  /-- An item of a sequence that is not indented, or its end. -/
  | looseItem
  /-- A key of a block mapping, or its end. -/
  | blockKey (start : Mark)
  /-- The value of a block mapping's key. -/
  | blockValue
  /-- An item of a flow sequence, or its end. -/
  | flowItem (start : Mark) (isFirst : Bool)
  /-- The key of a pair that is an item of a flow sequence. -/
  | pairKey
  /-- The value of such a pair. -/
  | pairValue
  /-- The end of such a pair. -/
  | pairEnd
  /-- A key of a flow mapping, or its end. -/
  | flowKey (start : Mark) (isFirst : Bool)
  /-- The value of a flow mapping's key. -/
  | flowValue
  /-- The absent value of a key that has no colon. -/
  | flowNoValue
  deriving DecidableEq, Repr

/-- A document whose grammar is being followed. -/
structure Grammar where
  /-- The tokens ahead. -/
  tokens : List Token
  /-- Why there are no more of them. -/
  problem : Option Problem
  /-- The meanings of tag handles. -/
  handles : List (String × List UInt8)
  /-- What must come next, the next first. -/
  expected : List Expected
  /-- The events so far, the last first. -/
  events : List Event
  deriving Repr

/-- The events of the first document of a text. -/
structure Events where
  /-- The events up to the end of the document or to the problem. -/
  events : List Event
  /-- Why there are no more. -/
  problem : Option Problem
  /-- Whether the text is empty apart from comments. -/
  isEmpty : Bool := false
  /-- Whether anything but the end of the text follows the document. -/
  hasMore : Bool := false
  deriving Repr

namespace Grammar

/-- The problem of tokens that run out before their end. -/
def missingTokens : Problem := { message := "did not find expected <stream-start>" }

/-- The next token. -/
def peek (grammar : Grammar) : Except Problem Token :=
  match grammar.tokens with
  | token :: _ => .ok token
  | [] => .error (grammar.problem.getD missingTokens)

/-- The grammar behind the next token. -/
def skip (grammar : Grammar) : Grammar := { grammar with tokens := grammar.tokens.drop 1 }

/-- The grammar with more expected before what is expected already. -/
def expecting (grammar : Grammar) (next : List Expected) : Grammar :=
  { grammar with expected := next ++ grammar.expected }

/-- The grammar with an event added. -/
def emit (grammar : Grammar) (kind : EventKind) (mark : Mark) (anchor : Option String := none) :
    Grammar :=
  { grammar with events := ⟨kind, mark, anchor⟩ :: grammar.events }

/-- The grammar with an absent node added. -/
def emitAbsent (grammar : Grammar) (mark : Mark) : Grammar :=
  grammar.emit (.scalar ⟨"", .plain, none⟩) mark

/-- The problem that the next token is not what a collection or a node needs. -/
def misfit (token : Token) (message activity : String) (start : Mark) : Problem :=
  { message, mark := token.start, context := some (activity, start) }

/-- What stands in front of a node. -/
structure Properties where
  /-- Where the node starts. -/
  start : Mark
  /-- Its name. -/
  anchor : Option String := none
  /-- The handle, the suffix and the place of its tag. -/
  tag : Option (String × List UInt8 × Mark) := none

/-- Reads an anchor and a tag, in either order. -/
def readProperties (grammar : Grammar) : Except Problem (Properties × Grammar) := do
  let token ← grammar.peek
  match token.kind with
  | .anchor name => do
      let after := grammar.skip
      let next ← after.peek
      match next.kind with
      | .tag handle suffix =>
          return ({ start := token.start, anchor := name, tag := (handle, suffix, next.start) },
            after.skip)
      | _ => return ({ start := token.start, anchor := name }, after)
  | .tag handle suffix => do
      let after := grammar.skip
      let next ← after.peek
      let tag := (handle, suffix, token.start)
      match next.kind with
      | .anchor name => return ({ start := token.start, anchor := name, tag := tag }, after.skip)
      | _ => return ({ start := token.start, tag := tag }, after)
  | _ => return ({ start := token.start }, grammar)

/-- The octets of a tag, its handle replaced by what the handle means. -/
def resolve (grammar : Grammar) (properties : Properties) :
    Except Problem (Option (List UInt8)) :=
  match properties.tag with
  | none => .ok none
  | some (handle, suffix, mark) =>
      if handle.isEmpty then .ok (some suffix)
      else
        match grammar.handles.find? fun known => known.1 == handle with
        | some (_, expansion) => .ok (some (expansion ++ suffix))
        | none =>
            .error { message := "found undefined tag handle", mark
                     context := some ("while parsing a node", properties.start) }

/-- Reads a node that is not an alias. -/
def readContent (grammar : Grammar) (place : NodePlace) (properties : Properties)
    (octets : Option (List UInt8)) : Except Problem Grammar := do
  let token ← grammar.peek
  let tag := octets.map Tag.ofOctets
  let start := properties.start
  let listStart := grammar.emit (.listStart tag) start properties.anchor
  let mapStart := grammar.emit (.mapStart tag) start properties.anchor
  match token.kind, place with
  | .blockEntry, .entry => return listStart.expecting [.looseItem]
  | .scalar text style, _ =>
      return (grammar.emit (.scalar ⟨text, style, tag⟩) start properties.anchor).skip
  | .flowSequenceStart, _ => return listStart.skip.expecting [.flowItem token.start true]
  | .flowMappingStart, _ => return mapStart.skip.expecting [.flowKey token.start true]
  | .blockSequenceStart, .block | .blockSequenceStart, .entry =>
      return listStart.skip.expecting [.blockItem token.start]
  | .blockMappingStart, .block | .blockMappingStart, .entry =>
      return mapStart.skip.expecting [.blockKey token.start]
  | _, _ =>
      if properties.anchor.isSome || octets.isSome then
        return grammar.emit (.scalar ⟨"", .plain, tag⟩) start properties.anchor
      else
        let activity :=
          if place == .flow then "while parsing a flow node" else "while parsing a block node"
        .error (misfit token "did not find expected node content" activity start)

/-- Reads a node. -/
def readNode (grammar : Grammar) (place : NodePlace) : Except Problem Grammar := do
  let token ← grammar.peek
  match token.kind with
  | .alias name => return (grammar.emit (.alias name) token.start).skip
  | _ =>
      let (properties, after) ← grammar.readProperties
      let octets ← after.resolve properties
      after.readContent place properties octets

/-- A node, unless the next token is one of those that show it to be absent. -/
def nodeUnless (grammar : Grammar) (place : NodePlace) (absent : List TokenKind)
    (mark : Token → Mark) (next : List Expected) : Except Problem Grammar := do
  let token ← grammar.peek
  if absent.contains token.kind then return (grammar.emitAbsent (mark token)).expecting next
  else return grammar.expecting (.node place :: next)

/-- The grammar behind the comma that must stand before every item but the first. -/
def skipComma (grammar : Grammar) (isFirst : Bool) (closing : TokenKind)
    (message activity : String) (start : Mark) : Except Problem Grammar := do
  let token ← grammar.peek
  if isFirst || token.kind == closing then return grammar
  else if token.kind == .flowEntry then return grammar.skip
  else .error (misfit token message activity start)

/-- Follows one expectation. -/
def follow (grammar : Grammar) : Expected → Except Problem Grammar
  | .node place => grammar.readNode place
  | .blockItem start => do
      let token ← grammar.peek
      match token.kind with
      | .blockEntry =>
          grammar.skip.nodeUnless .block [.blockEntry, .blockEnd] (fun _ => token.stop)
            [.blockItem start]
      | .blockEnd => return (grammar.emit .listEnd token.start).skip
      | _ =>
          .error (misfit token "did not find expected '-' indicator"
            "while parsing a block collection" start)
  | .looseItem => do
      let token ← grammar.peek
      match token.kind with
      | .blockEntry =>
          grammar.skip.nodeUnless .block [.blockEntry, .key, .value, .blockEnd]
            (fun _ => token.stop) [.looseItem]
      | _ => return grammar.emit .listEnd token.start
  | .blockKey start => do
      let token ← grammar.peek
      match token.kind with
      | .key =>
          grammar.skip.nodeUnless .entry [.key, .value, .blockEnd] (fun _ => token.stop)
            [.blockValue, .blockKey start]
      | .blockEnd => return (grammar.emit .mapEnd token.start).skip
      | _ =>
          .error (misfit token "did not find expected key" "while parsing a block mapping" start)
  | .blockValue => do
      let token ← grammar.peek
      match token.kind with
      | .value => grammar.skip.nodeUnless .entry [.key, .value, .blockEnd] (fun _ => token.stop) []
      | _ => return grammar.emitAbsent token.start
  | .flowItem start isFirst => do
      let here ← grammar.skipComma isFirst .flowSequenceEnd "did not find expected ',' or ']'"
        "while parsing a flow sequence" start
      let token ← here.peek
      match token.kind with
      | .flowSequenceEnd => return (here.emit .listEnd token.start).skip
      | .key =>
          return (here.emit (.mapStart none) token.start).skip.expecting
            [.pairKey, .pairValue, .pairEnd, .flowItem start false]
      | _ => return here.expecting [.node .flow, .flowItem start false]
  | .pairKey => do
      let token ← grammar.peek
      match token.kind with
      | .value | .flowEntry | .flowSequenceEnd => return (grammar.emitAbsent token.stop).skip
      | _ => return grammar.expecting [.node .flow]
  | .pairValue => do
      let token ← grammar.peek
      match token.kind with
      | .value =>
          grammar.skip.nodeUnless .flow [.flowEntry, .flowSequenceEnd] Token.start []
      | _ => return grammar.emitAbsent token.start
  | .pairEnd => do
      let token ← grammar.peek
      return grammar.emit .mapEnd token.start
  | .flowKey start isFirst => do
      let here ← grammar.skipComma isFirst .flowMappingEnd "did not find expected ',' or '\x7d'"
        "while parsing a flow mapping" start
      let token ← here.peek
      match token.kind with
      | .flowMappingEnd => return (here.emit .mapEnd token.start).skip
      | .key =>
          here.skip.nodeUnless .flow [.value, .flowEntry, .flowMappingEnd] Token.start
            [.flowValue, .flowKey start false]
      | _ => return here.expecting [.node .flow, .flowNoValue, .flowKey start false]
  | .flowValue => do
      let token ← grammar.peek
      match token.kind with
      | .value =>
          grammar.skip.nodeUnless .flow [.flowEntry, .flowMappingEnd] Token.start []
      | _ => return grammar.emitAbsent token.start
  | .flowNoValue => do
      let token ← grammar.peek
      return grammar.emitAbsent token.start

/-- Whether a document ends here at the latest. -/
def endsDocument : TokenKind → Bool
  | .versionDirective .. | .tagDirective .. | .documentStart | .documentEnd | .streamEnd => true
  | _ => false

/-- The meanings of the handles that no directive gives a meaning. -/
def standardHandles : List (String × List UInt8) :=
  [("!", "!".toUTF8.toList), ("!!", "tag:yaml.org,2002:".toUTF8.toList)]

/-- Reads directives; `versioned` says whether one with a version was among them. -/
def readDirectives (grammar : Grammar) (versioned : Bool) :
    List Token → Except Problem Grammar
  | [] => .ok grammar
  | token :: rest =>
      match token.kind with
      | .versionDirective major minor =>
          if versioned then
            .error { message := "found duplicate %YAML directive", mark := token.start }
          else if major != 1 || (minor != 1 && minor != 2) then
            .error { message := "found incompatible YAML document", mark := token.start }
          else readDirectives grammar.skip true rest
      | .tagDirective handle expansion =>
          if grammar.handles.any fun known => known.1 == handle then
            .error { message := "found duplicate %TAG directive", mark := token.start }
          else
            let handles := grammar.handles ++ [(handle, expansion)]
            readDirectives { grammar.skip with handles } versioned rest
      | _ => .ok grammar

/-- Reads what stands before the content of a document. Without the mark of its start a
    document has no directives. -/
def readStart (grammar : Grammar) : Except Problem Grammar := do
  let token ← grammar.peek
  let isExplicit :=
    match token.kind with
    | .versionDirective .. | .tagDirective .. | .documentStart => true
    | _ => false
  let free ← grammar.readDirectives false grammar.tokens
  let known := { free with handles := free.handles ++ standardHandles }
  if isExplicit then
    let mark ← known.peek
    if mark.kind == .documentStart then
      let content := known.skip
      let next ← content.peek
      if endsDocument next.kind then return content.emitAbsent next.start
      else return content.expecting [.node .block]
    else
      .error { message := "did not find expected <document start>", mark := mark.start }
  else return known.expecting [.node .block]

/-- Whether the text goes on behind the mark of the document's end. -/
def hasMore (grammar : Grammar) : Bool :=
  match grammar.tokens.dropWhile fun token => token.kind == .documentEnd with
  | token :: _ => token.kind != .streamEnd
  | [] => true

/-- The events up to a problem. -/
def stopped (grammar : Grammar) (problem : Problem) : Events :=
  { events := grammar.events.reverse, problem := some problem }

/-- The events of a document that is complete. -/
def finished (grammar : Grammar) : Events :=
  { events := grammar.events.reverse, problem := none, hasMore := grammar.hasMore }

/-- Follows expectations until none is left. Every token is taken once, and between two
    tokens at most a few expectations are followed, so `fuel` need not exceed a multiple
    of their number. -/
def run : (fuel : Nat) → Grammar → Events
  | 0, grammar => grammar.finished
  | fuel + 1, grammar =>
      match grammar.expected with
      | [] =>
          match grammar.peek with
          | .error problem => grammar.stopped problem
          | .ok _ => grammar.finished
      | next :: others =>
          match ({ grammar with expected := others } : Grammar).follow next with
          | .error problem => grammar.stopped problem
          | .ok after => run fuel after

end Grammar

namespace Events

/-- The events of the first document of a text that has been cut into tokens. -/
def ofTokens (tokens : Tokens) : Events :=
  let grammar : Grammar :=
    { tokens := tokens.tokens.drop 1, problem := tokens.problem, handles := [], expected := []
      events := [] }
  match grammar.peek with
  | .error problem => { events := [], problem := some problem }
  | .ok first =>
      if first.kind == .streamEnd then { events := [], problem := none, isEmpty := true }
      else
        match grammar.readStart with
        | .error problem => { events := [], problem := some problem }
        | .ok document => document.run (8 * tokens.tokens.length + 16)

end Events

end LastGood.Yaml
