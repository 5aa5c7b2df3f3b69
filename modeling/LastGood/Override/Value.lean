import LastGood.Number.Decimal
import LastGood.Text.Blank
import LastGood.Text.Hexadecimal
import LastGood.Text.Refusal
import LastGood.Tree

/-!
# Values of overrides

The value of an environment variable is written in a small language: `true` and `false`,
numbers, texts between double quotes, single characters between single quotes, lists
between square brackets and maps between braces. Anything that is not wholly of this
language is a text as it stands, and so is every bare word inside it.

A quoted text with escapes is cut short: of the characters in front of the first escape
only as many octets stay as there are characters. Where that would cut a character in
two, the reading crashes.
-/

namespace LastGood.Override

open Text (Refusal)

/-- The characters that end a bare word. -/
def isSeparator (c : Char) : Bool := ",\x7b\x7d[]".toList.contains c

/-- The characters of a key without quotes. -/
def isKeyChar (c : Char) : Bool := c.isAlphanum || c == '_' || c == '-'

/-- A text without the blanks at its start. -/
def skipBlanks (cs : List Char) : List Char := cs.dropWhile Text.isAsciiBlank

/-- The digits that a negative or positive whole number consists of, if they are digits
    and there is at least one. -/
def natural? (cs : List Char) : Option Nat :=
  if !cs.isEmpty && cs.all Decimal.isDigit then some (Decimal.digitsValue cs) else none

/-- The whole number of at most 64 bits that a word writes. -/
def integer? : List Char → Option Number
  | '-' :: digits => do
      let n ← natural? digits
      if n ≤ Number.signedWordBound then some (.signed (-(n : Int))) else none
  | word => do
      let n ← natural? (if word.head? == some '+' then word.drop 1 else word)
      if n < Number.wordBound then some (.unsigned n) else none

/-- The tree of a bare word. Only a word with a point can be a float. -/
def wordTree (word : List Char) : Tree Unit :=
  match if word.contains '.' then Decimal.read? word else none with
  | some x => .number () (.float x)
  | none =>
      match integer? word with
      | some number => .number () number
      | none => .text () (String.ofList word)

/-- The characters up to the quote that ends a text, escapes as they stand, and what
    follows that quote. -/
def splitQuoted : List Char → Except Refusal (List Char × List Char)
  | [] => .error .malformed
  | '"' :: rest => .ok ([], rest)
  | '\\' :: c :: rest => (splitQuoted rest).map fun (inner, after) => ('\\' :: c :: inner, after)
  | c :: rest => (splitQuoted rest).map fun (inner, after) => (c :: inner, after)

/-- Whether a character may stand in a quoted text. Of the control characters of ASCII
    only the tab may. -/
def isQuotable (c : Char) : Bool := c == '\t' || (' ' ≤ c && c != '\x7f')

/-- The character that a backslash and a letter stand for. -/
def escape? : Char → Option Char
  | '"' => some '"'
  | '\\' => some '\\'
  | 'b' => some '\x08'
  | 'f' => some '\x0c'
  | 'n' => some '\n'
  | 'r' => some '\r'
  | 't' => some '\t'
  | _ => none

/-- The character whose number is written with these digits. -/
def coded? (digits : List Char) (count : Nat) : Option Char :=
  if digits.length < count then none
  else
    match Text.hexNumber? digits with
    | some n => if n.isValidChar then some (Char.ofNat n) else none
    | none => none

/-- The text that characters with escapes write. Every step takes a character, so `fuel`
    need not exceed their number. -/
def unescape : (fuel : Nat) → List Char → Option (List Char)
  | _, [] => some []
  | 0, _ => none
  | fuel + 1, '\\' :: rest =>
      match rest with
      | [] => none
      | letter :: after =>
          if letter == 'u' || letter == 'U' then do
            let width := if letter == 'u' then 4 else 8
            let c ← coded? (after.take width) width
            let others ← unescape fuel (after.drop width)
            return c :: others
          else do
            let c ← escape? letter
            let others ← unescape fuel after
            return c :: others
  | fuel + 1, c :: rest =>
      if isQuotable c then (unescape fuel rest).map (c :: ·) else none

/-- What stays of the characters in front of the first escape. -/
def keptBefore (before : List Char) : Except Refusal (List Char) :=
  (Text.cut before.length before).map Prod.fst

/-- A text between double quotes, from behind the first of them. -/
def readQuoted (cs : List Char) : Except Refusal (String × List Char) := do
  let (inner, rest) ← splitQuoted cs
  let before := inner.takeWhile (· != '\\')
  let escaped := inner.dropWhile (· != '\\')
  if !before.all isQuotable then .error .malformed
  else if escaped.isEmpty then return (String.ofList before, rest)
  else
    let kept ← keptBefore before
    match unescape escaped.length escaped with
    | some others => return (String.ofList (kept ++ others), rest)
    | none => .error .malformed

/-- A key, and what follows it. -/
def readKey : List Char → Except Refusal (String × List Char)
  | '"' :: rest => readQuoted rest
  | cs =>
      let word := cs.takeWhile isKeyChar
      if word.isEmpty then .error .malformed
      else .ok (String.ofList word, cs.dropWhile isKeyChar)

/-- What follows a word at the start of a text. -/
def after? (word : String) (cs : List Char) : Option (List Char) :=
  if word.toList.isPrefixOf cs then some (cs.drop word.length) else none

mutual

/-- A value without blanks in front of it, and what follows it. -/
def readBare : (fuel : Nat) → List Char → Except Refusal (Tree Unit × List Char)
  | 0, _ => .error .malformed
  | fuel + 1, cs =>
      match after? "true" cs, after? "false" cs, cs with
      | some rest, _, _ => .ok (.bool () true, rest)
      | _, some rest, _ => .ok (.bool () false, rest)
      | _, _, '\x7b' :: rest => do
          let (found, after) ← readEntries fuel [] rest
          return (.map () found, after)
      | _, _, '[' :: rest => do
          let (items, after) ← readItems fuel rest
          return (.list () items, after)
      | _, _, '"' :: rest => do
          let (text, after) ← readQuoted rest
          return (.text () text, after)
      | _, _, '\'' :: rest =>
          match rest with
          | c :: '\'' :: after => .ok (.text () (String.ofList [c]), after)
          | _ => .error .malformed
      | _, _, _ =>
          let word := cs.takeWhile fun c => !isSeparator c
          .ok (wordTree (Text.trimmed word), cs.dropWhile fun c => !isSeparator c)

/-- A value with blanks around it, and what follows it. -/
def readValue : (fuel : Nat) → List Char → Except Refusal (Tree Unit × List Char)
  | 0, _ => .error .malformed
  | fuel + 1, cs => do
      let (tree, rest) ← readBare fuel (skipBlanks cs)
      return (tree, skipBlanks rest)

/-- The items of a list up to its closing bracket, and what follows that. A comma may
    stand behind the last item. -/
def readItems : (fuel : Nat) → List Char → Except Refusal (List (Tree Unit) × List Char)
  | 0, _ => .error .malformed
  | _ + 1, ']' :: rest => .ok ([], rest)
  | fuel + 1, cs => do
      let (item, rest) ← readValue fuel cs
      match rest with
      | ',' :: after => do
          let (items, stop) ← readItems fuel after
          return (item :: items, stop)
      | ']' :: after => return ([item], after)
      | _ => .error .malformed

/-- The entries of a map up to its closing brace, added to those before them, and what
    follows that. A comma may stand behind the last entry. -/
def readEntries : (fuel : Nat) → (before : List (String × Tree Unit)) → List Char →
    Except Refusal (List (String × Tree Unit) × List Char)
  | 0, _, _ => .error .malformed
  | _ + 1, before, '\x7d' :: rest => .ok (before, rest)
  | fuel + 1, before, cs => do
      let (name, rest) ← readKey (skipBlanks cs)
      match skipBlanks rest with
      | '=' :: start => do
          let (tree, stop) ← readValue fuel (skipBlanks start)
          let found := Entries.put name tree before
          match stop with
          | ',' :: after => readEntries fuel found after
          | '\x7d' :: after => return (found, after)
          | _ => .error .malformed
      | _ => .error .malformed

end

/-- The tree of the value of a variable, or the message of the crash of its reading.
    Nested values take at least one character for every two steps, so the fuel is
    enough. -/
def valueTree (text : String) : Except String (Tree Unit) :=
  let cs := text.toList
  match readValue (3 * cs.length + 4) cs with
  | .ok (tree, []) => .ok tree
  | .error (.crash message) => .error message
  | _ => .ok (.text () text)

end LastGood.Override
