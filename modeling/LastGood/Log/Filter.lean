import LastGood.Log
import LastGood.Log.Pattern
import LastGood.Number.Decimal
import LastGood.Text.Alphanumeric
import LastGood.Text.Blank
import LastGood.Text.Refusal
import LastGood.Text.Split

/-!
# Filters of log records

A filter is written as directives between commas. A directive is a level, a target, or
`target[span{field}]=level` with some of these parts left out; without a level it lets
everything through that it concerns. A directive concerns the records whose targets start
with its own target and that have the field that it names. The most specific directive
that concerns a record decides about it.

No record is written inside a span, and the values of fields are only looked at in spans.
So a directive with a span or with a value for its field concerns no record at all, but
a filter of such directives is not an empty one.
-/

namespace LastGood.Log

open Text (Refusal)

/-- A field that a directive asks for. -/
structure FieldTest where
  /-- The name of the field. -/
  name : String
  /-- Whether a value is asked for. -/
  hasValue : Bool
  deriving DecidableEq, Repr

/-- A directive of a filter. -/
structure Directive where
  /-- The start of the targets that it concerns, unless it concerns all of them. -/
  target : Option String := none
  /-- The span that it asks for. -/
  span : Option String := none
  /-- The field that it asks for. -/
  field : Option FieldTest := none
  /-- The greatest rank that it lets through; zero lets nothing through. -/
  rank : Nat := 5
  deriving DecidableEq, Repr

/-- A list of directives. -/
abbrev Filter := List Directive

/-- The rank that a number denotes. A plus sign may stand in front of it. -/
def numberRank? (text : String) : Option Nat :=
  let digits := if text.toList.head? == some '+' then text.toList.drop 1 else text.toList
  if digits.isEmpty || !digits.all Decimal.isDigit then none
  else
    let n := Decimal.digitsValue digits
    if n ≤ 5 then some n else none

/-- The rank that a number or the name of a level denotes, the name in any case. -/
def rank? (text : String) : Option Nat :=
  let word := text.toLower
  if word == "off" then some 0
  else if word == "error" then some 1
  else if word == "warn" then some 2
  else if word == "info" then some 3
  else if word == "debug" then some 4
  else if word == "trace" then some 5
  else numberRank? text

/-- The test that a text writes: a name, and behind an equals sign a value, up to another
    equals sign. Something must be written. -/
def FieldTest.ofText? (text : String) : Option FieldTest :=
  if text.isEmpty then none
  else
    match Text.pieces '=' text.toList with
    | name :: value :: _ =>
        if Pattern.isValue value then some ⟨String.ofList name, true⟩ else none
    | _ => some ⟨text, false⟩

/-- How far the reading of a directive has come. -/
inductive Stage where
  /-- Nothing has been read. -/
  | start
  /-- In a level or a target that begins at this octet. -/
  | word (first : Nat)
  /-- In the name of a span that begins at this octet. -/
  | span (first : Nat)
  /-- In the test of a field that begins at this octet. -/
  | field (first : Nat)
  /-- Behind the test of a field. -/
  | fieldEnd
  /-- Behind a span. -/
  | spanEnd
  /-- In a level that begins at this octet. -/
  | level (first : Nat)
  deriving DecidableEq, Repr

/-- The part of a text between two octets. -/
def partOf (text : List Char) (first stop : Nat) : Except Refusal String :=
  (Text.part first stop text).map String.ofList

/-- Reads the character at the octet `place` of a directive. -/
def advance (text : List Char) (place : Nat) (c : Char) (directive : Directive) :
    Stage → Except Refusal (Directive × Stage)
  | .start =>
      if c == '[' then .ok (directive, .span (place + 1))
      else if Text.isAlphanumeric c || c == '-' || c == ':' || c == '_' then
        .ok (directive, .word place)
      else .error .malformed
  | .word first =>
      if c == '=' then do
        let target ← partOf text first place
        return ({ directive with target := some target }, .level (place + 1))
      else if c == '[' then do
        let target ← partOf text first place
        return ({ directive with target := some target }, .span (place + 1))
      else .ok (directive, .word first)
  | .span first =>
      if c == ']' then do
        let name ← partOf text first place
        return ({ directive with span := some name }, .spanEnd)
      else if c == '\x7b' then do
        let name ← partOf text first place
        return ({ directive with span := if name.isEmpty then none else some name },
          .field (place + 1))
      else .ok (directive, .span first)
  | .field first =>
      if c == '\x7d' then do
        let test ← partOf text first place
        match FieldTest.ofText? test with
        | some field => return ({ directive with field := some field }, .fieldEnd)
        | none => .error .malformed
      else .ok (directive, .field first)
  | .fieldEnd => if c == ']' then .ok (directive, .spanEnd) else .error .malformed
  | .spanEnd => if c == '=' then .ok (directive, .level (place + 1)) else .error .malformed
  | .level first => .ok (directive, .level first)

/-- Reads characters of a directive from the octet `place` on. -/
def readFrom (text : List Char) (place : Nat) :
    List Char → Directive × Stage → Except Refusal (Directive × Stage)
  | [], reached => .ok reached
  | c :: rest, (directive, stage) => do
      let next ← advance text place c directive stage
      readFrom text (place + c.utf8Size) rest next

/-- The directive at the end of its text, if it may end there. A level that cannot be read
    spoils it, but a word that is no level is a target. -/
def finish (text : List Char) : Directive × Stage → Except Refusal Directive
  | (directive, .word first) => do
      let word ← partOf text first (Text.octetCount text)
      match rank? word with
      | some rank => return { directive with rank }
      | none => return { directive with target := some word }
  | (directive, .level first) => do
      let level ← partOf text first (Text.octetCount text)
      if level.isEmpty then return directive
      else
        match rank? level with
        | some rank => return { directive with rank }
        | none => .error .malformed
  | (directive, .spanEnd) => .ok directive
  | _ => .error .malformed

/-- The directive that a text writes. Blanks around it are passed over, but they are not
    taken off its parts: octets are counted from behind the blanks in front and looked up
    in the whole text. -/
def directiveOf (text : List Char) : Except Refusal Directive := do
  let reached ← readFrom text 0 (Text.trimmed text) ({}, .start)
  finish text reached

/-- The filter that directives between commas make up; a text without any lets errors
    through, and one malformed directive spoils them all. -/
def parse (text : String) : Except Refusal Filter :=
  let parts := (Text.pieces ',' text.toList).filter fun piece => !piece.isEmpty
  if parts.isEmpty then .ok [{ rank := 1 }] else parts.mapM directiveOf

/-- The filter when none is asked for. -/
def defaultFilter : Filter := [{ target := some "confcache", rank := 3 }]

/-- The filter that a setting asks for, or the default one, or the message of the crash
    of reading it. -/
def filterOf : Option String → Except String Filter
  | none => .ok defaultFilter
  | some text =>
      match parse text with
      | .ok filter => .ok filter
      | .error .malformed => .ok defaultFilter
      | .error (.crash message) => .error message

/-- Whether a directive concerns a record. Its message is a field of a record, too. -/
def concerns (directive : Directive) (record : LogRecord) : Bool :=
  directive.span.isNone &&
    directive.target.all (fun target => target.toList.isPrefixOf record.target.toList) &&
    directive.field.all fun test =>
      !test.hasValue && ("message" :: record.fields.map Prod.fst).contains test.name

/-- How specific a directive is: a longer target counts more than a field. -/
def weight (directive : Directive) : Nat :=
  2 * ((directive.target.map fun target => target.utf8ByteSize + 1).getD 0) +
    (if directive.field.isSome then 1 else 0)

/-- The name of the field that a directive asks for, or nothing. -/
def fieldName (directive : Directive) : String :=
  (directive.field.map FieldTest.name).getD ""

/-- Whether a directive goes before another one when both concern a record. -/
def goesBefore (directive other : Directive) : Bool :=
  weight other < weight directive ||
    (weight other == weight directive && decide (fieldName other ≤ fieldName directive))

/-- The last of the most specific directives that concern a record. -/
def deciding? (filter : Filter) (record : LogRecord) : Option Directive :=
  filter.foldl (fun best directive =>
    if concerns directive record && best.all (goesBefore directive) then some directive
    else best) none

/-- Whether a filter lets a record through. -/
def lets (filter : Filter) (record : LogRecord) : Bool :=
  (deciding? filter record).any fun directive => decide (record.level.rank ≤ directive.rank)

/-- The records that a filter lets through. -/
def through (filter : Filter) (records : List LogRecord) : List LogRecord :=
  records.filter (lets filter)

end LastGood.Log
