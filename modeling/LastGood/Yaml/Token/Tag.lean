import LastGood.Text.Hexadecimal
import LastGood.Yaml.Cursor
import LastGood.Yaml.Token

/-!
# Tags, anchors and aliases

The properties that may stand in front of a node. A tag is a handle and a suffix: the
handle is empty for a tag between angle brackets, `!` alone, or a word between two
exclamation marks. In the suffix any octet may be written as a percent sign and two
hexadecimal digits, as long as the octets of one character follow each other and have
the right number. The suffix ends at an octet of zero.
-/

namespace LastGood.Yaml

/-- Where a tag is read, which decides the words of its problems. -/
inductive TagPlace where
  /-- In front of a node. -/
  | node
  /-- In a directive. -/
  | directive
  deriving DecidableEq, Repr

namespace TagPlace

/-- What is going on while a suffix is read. -/
def activity : TagPlace → String
  | node => "while parsing a tag"
  | directive => "while parsing a %TAG directive"

end TagPlace

namespace Cursor

/-- The octet that a percent sign and two digits write. -/
def octet? (cursor : Cursor) : Option Nat :=
  match cursor.rest with
  | '%' :: high :: low :: _ => do
      let h ← Text.hexValue? high
      let l ← Text.hexValue? low
      return h * 16 + l
  | _ => none

/-- The number of octets of the character that starts with this one. -/
def octetWidth? (octet : Nat) : Option Nat :=
  if octet < 0x80 then some 1
  else if 0xC0 ≤ octet && octet < 0xE0 then some 2
  else if 0xE0 ≤ octet && octet < 0xF0 then some 3
  else if 0xF0 ≤ octet && octet < 0xF8 then some 4
  else none

/-- Reads `count` octets that continue a character. -/
def readContinuation (place : TagPlace) (start : Mark) :
    (count : Nat) → Cursor → Except Problem (List UInt8 × Cursor)
  | 0, cursor => .ok ([], cursor)
  | count + 1, cursor =>
      match cursor.octet? with
      | none => .error (cursor.problem "did not find URI escaped octet" place.activity start)
      | some octet =>
          if octet / 64 != 2 then
            .error (cursor.problem "found an incorrect trailing UTF-8 octet" place.activity start)
          else do
            let (octets, after) ← readContinuation place start count (cursor.skip 3)
            return (UInt8.ofNat octet :: octets, after)

/-- Reads the escaped octets of one character. -/
def readEscapedOctets (cursor : Cursor) (place : TagPlace) (start : Mark) :
    Except Problem (List UInt8 × Cursor) :=
  match cursor.octet? with
  | none => .error (cursor.problem "did not find URI escaped octet" place.activity start)
  | some octet =>
      match octetWidth? octet with
      | none =>
          .error (cursor.problem "found an incorrect leading UTF-8 octet" place.activity start)
      | some width => do
          let (octets, after) ← readContinuation place start (width - 1) (cursor.skip 3)
          return (UInt8.ofNat octet :: octets, after)

/-- Reads the characters of a tag one after another; every step takes at least one, so
    `fuel` need not exceed what is ahead. -/
def readTagOctets (verbatim : Bool) (place : TagPlace) (start : Mark) :
    (fuel : Nat) → Cursor → Except Problem (List UInt8 × Cursor)
  | 0, cursor => .ok ([], cursor)
  | fuel + 1, cursor =>
      match cursor.peek with
      | some c =>
          if c == '%' then do
            let (octets, after) ← cursor.readEscapedOctets place start
            let (others, stop) ← readTagOctets verbatim place start fuel after
            return (octets ++ others, stop)
          else if isTagChar verbatim c then do
            let (others, stop) ← readTagOctets verbatim place start fuel cursor.skip
            return (UInt8.ofNat c.toNat :: others, stop)
          else .ok ([], cursor)
      | none => .ok ([], cursor)

/-- Reads the suffix of a tag. The characters in `before` belong to it as well, and
    `mayBeEmpty` says that something else of the tag was there already. -/
def readSuffix (cursor : Cursor) (verbatim : Bool) (place : TagPlace) (start : Mark)
    (before : List UInt8 := []) (mayBeEmpty : Bool := false) :
    Except Problem (List UInt8 × Cursor) := do
  let (octets, after) ← readTagOctets verbatim place start cursor.bound cursor
  if !mayBeEmpty && after.mark.index == cursor.mark.index then
    .error (after.problem "did not find expected tag URI" place.activity start)
  else return ((before ++ octets).takeWhile (· != 0), after)

/-- Reads a handle: an exclamation mark, a word, and in the end another exclamation
    mark, which may be absent in front of a node. -/
def readHandle (cursor : Cursor) (place : TagPlace) (start : Mark) :
    Except Problem (List Char × Cursor) :=
  if cursor.sees '!' then
    let (word, after) := cursor.skip.takeWhile isWordChar
    if after.sees '!' then .ok ('!' :: word ++ ['!'], after.skip)
    else if place == .directive && !word.isEmpty then
      .error (after.problem "did not find expected '!'" "while parsing a tag directive" start)
    else .ok ('!' :: word, after)
  else
    let activity :=
      match place with
      | .node => "while scanning a tag"
      | .directive => "while scanning a tag directive"
    .error (cursor.problem "did not find expected '!'" activity start)

/-- The octets of characters of ASCII. -/
def octetsOf (cs : List Char) : List UInt8 := cs.map fun c => UInt8.ofNat c.toNat

/-- Reads a tag up to what must end it. -/
def readTagParts (cursor : Cursor) : Except Problem (TokenKind × Cursor) := do
  let start := cursor.mark
  if cursor.peek 1 == some '<' then
    let (suffix, after) ← (cursor.skip 2).readSuffix true .node start
    if after.sees '>' then return (.tag "" suffix, after.skip)
    else .error (after.problem "did not find the expected '>'" "while scanning a tag" start)
  else
    let (handle, after) ← cursor.readHandle .node start
    if 2 ≤ handle.length && handle.getLast? == some '!' then
      let (suffix, stop) ← after.readSuffix false .node start
      return (.tag (String.ofList handle) suffix, stop)
    else
      let (suffix, stop) ← after.readSuffix false .node start (octetsOf (handle.drop 1)) true
      if suffix.isEmpty then return (.tag "" (octetsOf ['!']), stop)
      else return (.tag "!" suffix, stop)

/-- Reads a tag. A blank must follow it, or in a flow collection a comma. -/
def readTag (cursor : Cursor) (inFlow : Bool) : Except Problem (TokenKind × Cursor) := do
  let (kind, after) ← cursor.readTagParts
  if isBlankOrEnd after.peek || (inFlow && after.sees ',') then return (kind, after)
  else
    .error (after.problem "did not find expected whitespace or line break" "while scanning a tag"
      cursor.mark)

/-- Reads the name behind `&` or `*`. -/
def readName (cursor : Cursor) (activity : String) : Except Problem (String × Cursor) :=
  let (word, after) := cursor.skip.takeWhile isWordChar
  if !word.isEmpty && (isBlankOrEnd after.peek || after.peek.any "?:,]\x7d%@`".toList.contains) then
    .ok (String.ofList word, after)
  else
    .error (after.problem "did not find expected alphabetic or numeric character" activity
      cursor.mark)

/-- Reads an anchor. -/
def readAnchor (cursor : Cursor) : Except Problem (TokenKind × Cursor) := do
  let (name, after) ← cursor.readName "while scanning an anchor"
  return (.anchor name, after)

/-- Reads an alias. -/
def readAlias (cursor : Cursor) : Except Problem (TokenKind × Cursor) := do
  let (name, after) ← cursor.readName "while scanning an alias"
  return (.alias name, after)

end Cursor

end LastGood.Yaml
