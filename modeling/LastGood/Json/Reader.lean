import LastGood.Json

/-!
# Reading JSON text

A text is one JSON value with blanks around it. Whole numbers of at most sixty-four
bits stay whole; larger ones, minus zero, and numbers with a fraction or an exponent
become binary floating-point numbers, and one beyond the largest of those is refused.
Of two entries with one key the later one stays, and the entries of a map come out in
the order of their keys. Escaped surrogates must come in pairs. Containers may be
nested at most a hundred and twenty-seven deep.
-/

namespace LastGood.Json

/-- The text behind the blanks at its start. -/
def skipSpaces (cs : List Char) : List Char := cs.dropWhile isSpace

/-- The text behind a word, if it starts with the word. -/
def word? (word : List Char) (cs : List Char) : Option (List Char) :=
  if word.isPrefixOf cs then some (cs.drop word.length) else none

/-- The character of an escape with one letter. -/
def letterEscape? : Char → Option Char
  | '"' => some '"'
  | '\\' => some '\\'
  | '/' => some '/'
  | 'b' => some '\x08'
  | 'f' => some '\x0c'
  | 'n' => some '\n'
  | 'r' => some '\r'
  | 't' => some '\t'
  | _ => none

/-- The number in the first four hexadecimal digits, and what follows them. -/
def unit? (cs : List Char) : Option (Nat × List Char) :=
  let digits := cs.take 4
  if digits.length == 4 then (Text.hexNumber? digits).map (·, cs.drop 4) else none

/-- The character of an escape with a code, the text behind the letter `u` given. A
    high surrogate takes the low one behind it. -/
def codeEscape? (cs : List Char) : Option (Char × List Char) := do
  let (first, rest) ← unit? cs
  if first < 0xD800 || 0xDFFF < first then return (Char.ofNat first, rest)
  else if 0xDC00 ≤ first then none
  else
    let ('\\' :: 'u' :: digits) := rest | none
    let (second, rest) ← unit? digits
    if second < 0xDC00 || 0xDFFF < second then none
    else return (Char.ofNat (0x10000 + (first - 0xD800) * 0x400 + (second - 0xDC00)), rest)

/-- The text up to the closing quote, and what follows it. Every step takes at least one
    character, so the number of characters is enough fuel. -/
def textBody? : Nat → List Char → Option (List Char × List Char)
  | 0, _ => none
  | fuel + 1, cs =>
      match cs with
      | [] => none
      | '"' :: rest => some ([], rest)
      | '\\' :: 'u' :: rest => do
          let (c, rest) ← codeEscape? rest
          let (body, rest) ← textBody? fuel rest
          return (c :: body, rest)
      | '\\' :: letter :: rest => do
          let c ← letterEscape? letter
          let (body, rest) ← textBody? fuel rest
          return (c :: body, rest)
      | c :: rest =>
          if c == '\\' || c.toNat < 32 then none
          else (textBody? fuel rest).map fun (body, rest) => (c :: body, rest)

/-- Whether a run of digits is written without needless zeros in front. -/
def isWhole : List Char → Bool
  | [] => false
  | ['0'] => true
  | '0' :: _ => false
  | _ => true

/-- The number that the parts of a numeral denote; `none` for a whole part or a fraction
    of the wrong shape, or a number beyond all finite ones. -/
def numberOf? (negative : Bool) (whole : List Char) (fraction exponent : Option (List Char)) :
    Option Number :=
  let value := Decimal.digitsValue whole
  match fraction, exponent with
  | none, none =>
      if !negative && value < Number.wordBound then some (.unsigned value)
      else if negative && value != 0 && value ≤ Number.signedWordBound then
        some (.signed (-(value : Int)))
      else finite? (Binary64.ofDecimal negative value 0)
  | _, _ =>
      let digits := fraction.getD []
      match Decimal.exponent? (exponent.getD []) with
      | none => none
      | some power =>
          finite? (Binary64.ofDecimal negative (Decimal.digitsValue (whole ++ digits))
            (power - (digits.length : Int)))
where
  /-- A finite number as it is, and nothing else. -/
  finite? (x : Binary64) : Option Number := if x.isFinite then some (.float x) else none

/-- A number at the start of a text, and what follows it. -/
def number? (cs : List Char) : Option (Number × List Char) :=
  let (negative, body) :=
    match cs with
    | '-' :: rest => (true, rest)
    | rest => (false, rest)
  let whole := body.takeWhile Decimal.isDigit
  let rest := body.dropWhile Decimal.isDigit
  let (fraction, rest) :=
    match rest with
    | '.' :: digits =>
        (some (digits.takeWhile Decimal.isDigit), digits.dropWhile Decimal.isDigit)
    | rest => (none, rest)
  let (exponent, rest) :=
    match rest with
    | c :: tail =>
        if c == 'e' || c == 'E' then
          let sign := tail.takeWhile fun d => d == '+' || d == '-'
          let digits := tail.drop sign.length
          (some (c :: sign ++ digits.takeWhile Decimal.isDigit), digits.dropWhile Decimal.isDigit)
        else (none, rest)
    | [] => (none, rest)
  if !isWhole whole || fraction == some [] then none
  else (numberOf? negative whole fraction exponent).map (·, rest)

mutual

/-- A value at the start of a text, and what follows it, with at most `depth` containers
    around its innermost parts. The text has no more than `size` characters. -/
def value? (size depth : Nat) (cs : List Char) : Option (Json × List Char) :=
  let cs := skipSpaces cs
  match cs with
  | [] => none
  | '"' :: rest =>
      (textBody? size rest).map fun (body, rest) =>
        (.text () (String.ofList body), rest)
  | '[' :: rest =>
      match depth with
      | 0 => none
      | inner + 1 =>
          match skipSpaces rest with
          | ']' :: rest => some (.list () [], rest)
          | rest => (items? size inner size rest).map fun (items, rest) => (.list () items, rest)
  | c :: rest =>
      if c == '\x7b' then
        match depth with
        | 0 => none
        | inner + 1 =>
            let body := skipSpaces rest
            if body.head? == some '\x7d' then some (.map () [], body.drop 1)
            else (entries? size inner size body).map fun (entries, rest) =>
              (.map () (Entries.ofList entries), rest)
      else if c == 't' then (word? "rue".toList rest).map (Tree.bool () true, ·)
      else if c == 'f' then (word? "alse".toList rest).map (Tree.bool () false, ·)
      else if c == 'n' then (word? "ull".toList rest).map (Tree.null (), ·)
      else (number? cs).map fun (number, rest) => (.number () number, rest)
termination_by (depth, 0)

/-- At most `count` items up to the closing bracket, and what follows it. -/
def items? (size depth count : Nat) (cs : List Char) : Option (List Json × List Char) :=
  match count with
  | 0 => none
  | count + 1 => do
      let (item, rest) ← value? size depth cs
      match skipSpaces rest with
      | ',' :: rest =>
          let (items, rest) ← items? size depth count rest
          return (item :: items, rest)
      | ']' :: rest => return ([item], rest)
      | _ => none
termination_by (depth, count + 1)

/-- At most `count` entries up to the closing brace, and what follows it. -/
def entries? (size depth count : Nat) (cs : List Char) :
    Option (List (String × Json) × List Char) :=
  match count with
  | 0 => none
  | count + 1 => do
      let '"' :: body := skipSpaces cs | none
      let (key, rest) ← textBody? size body
      let ':' :: rest := skipSpaces rest | none
      let (value, rest) ← value? size depth rest
      let entry := (String.ofList key, value)
      match skipSpaces rest with
      | ',' :: rest =>
          let (entries, rest) ← entries? size depth count rest
          return (entry :: entries, rest)
      | c :: rest => if c == '\x7d' then return ([entry], rest) else none
      | [] => none
termination_by (depth, count + 1)

end

/-- The deepest nesting of containers that is read. -/
def maxDepth : Nat := 127

/-- The value that a text denotes. -/
def ofText? (text : String) : Option Json := do
  let cs := text.toList
  let (value, rest) ← value? cs.length maxDepth cs
  if (skipSpaces rest).isEmpty then return value else none

end LastGood.Json
