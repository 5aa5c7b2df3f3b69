import LastGood.Number.Decimal
import LastGood.Text.Alphanumeric
import LastGood.Text.Hexadecimal

/-!
# Patterns for the values of fields

The value that a directive asks for is a number or a pattern, and a pattern is a regular
expression. Only its form matters: brackets and groups must be closed, something must
stand before a repetition, and escapes and ranges must mean something.

What is a letter, a digit or a blank, and which letters differ in case alone, is known for
octets only. So the classes of these, the boundaries of words and letters in either case
need the flag that asks for octets. With that flag in turn nothing may match a part of a
character, as a point or a complement could.
-/

namespace LastGood.Log.Pattern

/-- The flags that decide what a pattern may hold. -/
structure Flags where
  /-- Whether letters match in either case. -/
  eitherCase : Bool := false
  /-- Whether octets are matched. -/
  octets : Bool := false
  deriving DecidableEq, Repr

namespace Flags

/-- Whether characters may be matched. -/
def allowsCharacters (flags : Flags) : Bool := !flags.eitherCase || flags.octets

/-- The flags with one of them set or cleared, if there is one with this letter. -/
def setting? (flags : Flags) (letter : Char) (value : Bool) : Option Flags :=
  if letter == 'i' then some { flags with eitherCase := value }
  else if letter == 'u' then some { flags with octets := !value }
  else if "msURx".toList.contains letter then some flags
  else none

end Flags

/-- What a backslash and what follows it stand for. -/
inductive Escape where
  /-- A character. -/
  | character (c : Char)
  /-- The digits, the blanks or the letters, or everything else. -/
  | kind (isComplement : Bool)
  /-- The start or the end of the value. -/
  | edge
  /-- The start or the end of a word. -/
  | boundary
  deriving DecidableEq, Repr

/-- Whether an escape may stand outside of brackets. -/
def Escape.isAllowed (flags : Flags) : Escape → Bool
  | .character _ => flags.allowsCharacters
  | .kind isComplement => flags.octets && !isComplement
  | .edge => true
  | .boundary => flags.octets

/-- The character whose number stands in the first so many digits, and what follows. -/
def coded? (count : Nat) (cs : List Char) : Option (Escape × List Char) :=
  let digits := cs.take count
  if digits.length < count then none
  else do
    let value ← Text.hexNumber? digits
    if value.isValidChar then return (.character (Char.ofNat value), cs.drop count) else none

/-- The character that a letter behind a backslash stands for. -/
def letterCharacter? : Char → Option Char
  | 'a' => some '\x07'
  | 'f' => some '\x0c'
  | 'n' => some '\n'
  | 'r' => some '\r'
  | 't' => some '\t'
  | 'v' => some '\x0b'
  | _ => none

/-- The escape behind a backslash, and what follows it. -/
def escape? : List Char → Option (Escape × List Char)
  | [] => none
  | 'x' :: rest => coded? 2 rest
  | 'u' :: rest => coded? 4 rest
  | 'U' :: rest => coded? 8 rest
  | c :: rest =>
      if "dsw".toList.contains c then some (.kind false, rest)
      else if "DSW".toList.contains c then some (.kind true, rest)
      else if c == 'A' || c == 'z' then some (.edge, rest)
      else if "bB<>".toList.contains c then some (.boundary, rest)
      else if c.isAlphanum then (letterCharacter? c).map fun value => (.character value, rest)
      else if c.toNat < 128 then some (.character c, rest)
      else none

/-- What follows the opening of brackets: a complement sign, hyphens, and where no hyphen
    stands, a closing bracket that closes nothing. -/
def brackets? (flags : Flags) (cs : List Char) : Option (List Char) :=
  let isComplement := cs.head? == some '^'
  let body := if isComplement then cs.drop 1 else cs
  if !flags.allowsCharacters || (isComplement && flags.octets) then none
  else if body.head? == some ']' then some (body.drop 1)
  else some (body.dropWhile (· == '-'))

/-- An item between brackets, and what follows it. It is a character or has none. -/
def item? (flags : Flags) : List Char → Option (Option Char × List Char)
  | [] => none
  | '\\' :: rest => do
      match ← escape? rest with
      | (.character c, after) => return (some c, after)
      | (.kind isComplement, after) =>
          if (Escape.kind isComplement).isAllowed flags then return (none, after) else none
      | _ => none
  | c :: rest => some (some c, rest)

/-- What follows the closing bracket, when `depth` brackets are open around these. Every
    step takes a character, so `fuel` need not exceed what is ahead. -/
def behindBrackets? (flags : Flags) :
    (fuel : Nat) → (depth : Nat) → List Char → Option (List Char)
  | 0, _, _ => none
  | fuel + 1, depth, cs =>
      match cs with
      | '[' :: rest => (brackets? flags rest).bind (behindBrackets? flags fuel (depth + 1))
      | ']' :: rest =>
          match depth with
          | 0 => some rest
          | outer + 1 => behindBrackets? flags fuel outer rest
      | '&' :: '&' :: rest | '-' :: '-' :: rest | '~' :: '~' :: rest =>
          behindBrackets? flags fuel depth rest
      | _ => do
          let (first, rest) ← item? flags cs
          match rest with
          | '-' :: ']' :: _ | '-' :: '-' :: _ => behindBrackets? flags fuel depth rest
          | '-' :: after => do
              let (last, stop) ← item? flags after
              if (← first) ≤ (← last) then behindBrackets? flags fuel depth stop else none
          | _ => behindBrackets? flags fuel depth rest

/-- How far the reading of a pattern has come. -/
structure Progress where
  /-- The flags that hold. -/
  flags : Flags := {}
  /-- The flags that hold behind the open groups, the innermost first. -/
  outer : List Flags := []
  /-- The names of the groups so far. -/
  names : List (List Char) := []
  /-- Whether a repetition may follow. -/
  isRepeatable : Bool := false
  deriving Repr

namespace Progress

/-- The progress behind something that can be repeated. -/
def behindAtom (progress : Progress) : Progress := { progress with isRepeatable := true }

/-- The progress behind the opening of a group with these flags. -/
def inGroup (progress : Progress) (flags : Flags) : Progress :=
  { progress with flags, outer := progress.flags :: progress.outer, isRepeatable := false }

end Progress

/-- Whether the characters are the name of a group. -/
def isGroupName : List Char → Bool
  | [] => false
  | first :: rest =>
      (first == '_' || (Text.isAlphanumeric first && !first.isDigit)) &&
        rest.all fun c => Text.isAlphanumeric c || "_.[]".toList.contains c

/-- Opens a group with the name that stands here. -/
def namedGroup? (progress : Progress) (cs : List Char) : Option (Progress × List Char) :=
  let name := cs.takeWhile (· != '>')
  match cs.drop name.length with
  | _ :: rest =>
      if isGroupName name && !progress.names.contains name then
        some ({ progress.inGroup progress.flags with names := name :: progress.names }, rest)
      else none
  | [] => none

/-- Reads flags up to what ends them: a colon opens a group in which they hold, and a
    bracket lets them hold from here on. `seen` holds what was read of them, the last
    first. -/
def flagged? (progress : Progress) (flags : Flags) (seen : List Char) :
    List Char → Option (Progress × List Char)
  | [] => none
  | c :: rest =>
      if c == ':' || c == ')' then
        if seen.head? == some '-' then none
        else if c == ':' then some (progress.inGroup flags, rest)
        else if seen.isEmpty then none
        else some ({ progress with flags, isRepeatable := false }, rest)
      else if seen.contains c then none
      else if c == '-' then flagged? progress flags (c :: seen) rest
      else do
        let next ← flags.setting? c (!seen.contains '-')
        flagged? progress next (c :: seen) rest

/-- Opens a group behind its bracket. A group that looks ahead or behind is no group. -/
def group? (progress : Progress) : List Char → Option (Progress × List Char)
  | '?' :: 'P' :: '<' :: rest => namedGroup? progress rest
  | '?' :: '<' :: '=' :: _ | '?' :: '<' :: '!' :: _ => none
  | '?' :: '<' :: rest => namedGroup? progress rest
  | '?' :: rest => flagged? progress progress.flags [] rest
  | rest => some (progress.inGroup progress.flags, rest)

/-- Reads what begins with the character `c`; no more than `fuel` characters follow. -/
def advance? (fuel : Nat) (progress : Progress) (c : Char) (rest : List Char) :
    Option (Progress × List Char) :=
  let atom (isAllowed : Bool) (after : List Char) : Option (Progress × List Char) :=
    if isAllowed then some (progress.behindAtom, after) else none
  if c == '(' then group? progress rest
  else if c == ')' then
    match progress.outer with
    | [] => none
    | flags :: outer => some ({ progress with flags, outer }.behindAtom, rest)
  else if c == '|' then some ({ progress with isRepeatable := false }, rest)
  else if c == '[' then do
    let body ← brackets? progress.flags rest
    let after ← behindBrackets? progress.flags (fuel + 1) 0 body
    return (progress.behindAtom, after)
  else if c == '*' || c == '+' || c == '?' then
    atom progress.isRepeatable (if rest.head? == some '?' then rest.drop 1 else rest)
  else if c == '\x7b' then none
  else if c == '\\' then do
    let (escape, after) ← escape? rest
    atom (escape.isAllowed progress.flags) after
  else if c == '.' then atom (!progress.flags.octets) rest
  else if c == '^' || c == '$' then atom true rest
  else atom progress.flags.allowsCharacters rest

/-- Whether the rest of a pattern is well-formed. Every step takes a character, so `fuel`
    need not exceed what is ahead. -/
def isWellFormedFrom : (fuel : Nat) → Progress → List Char → Bool
  | _, progress, [] => progress.outer.isEmpty
  | 0, _, _ => false
  | fuel + 1, progress, c :: rest =>
      match advance? fuel progress c rest with
      | some (next, after) => isWellFormedFrom fuel next after
      | none => false

/-- Whether a text is a well-formed pattern. -/
def isWellFormed (cs : List Char) : Bool := isWellFormedFrom cs.length {} cs

/-- Whether a text behind a plus sign is a number, the infinite ones and none included. -/
def isUnsigned (cs : List Char) : Bool :=
  let word := (String.ofList cs).toLower
  word == "inf" || word == "infinity" || word == "nan" ||
    (cs.head? != some '+' && cs.head? != some '-' && (Decimal.read? cs).isSome)

/-- Whether a text can be asked for as a value. -/
def isValue (cs : List Char) : Bool :=
  isWellFormed cs || (cs.head? == some '+' && isUnsigned (cs.drop 1))

end LastGood.Log.Pattern
