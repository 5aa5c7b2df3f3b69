import LastGood.Number.Decimal
import LastGood.Tree
import LastGood.Yaml.Event

/-!
# What a scalar is

A plain scalar without a tag may be absent, a truth value or a number, and is a text
otherwise. Whole numbers may be written in base two, eight, ten and sixteen and have at
most 128 bits. A leading zero before other digits makes a text of them, and so does a
magnitude beyond all finite numbers.
-/

namespace LastGood.Yaml

/-- The names of the absent value. -/
def isNullWord (word : String) : Bool :=
  word == "null" || word == "Null" || word == "NULL" || word == "~"

/-- The truth value that a word names. -/
def boolWord? (word : String) : Option Bool :=
  if word == "true" || word == "True" || word == "TRUE" then some true
  else if word == "false" || word == "False" || word == "FALSE" then some false
  else none

/-- Whether a text, a sign aside, is a zero with more digits behind it. -/
def hasLeadingZero (cs : List Char) : Bool :=
  let digits :=
    match cs with
    | '-' :: rest | '+' :: rest => rest
    | _ => cs
  match digits with
  | '0' :: rest => !rest.isEmpty && rest.all Decimal.isDigit
  | _ => false

/-- The value of a digit in a base. -/
def digit? (base : Nat) (c : Char) : Option Nat :=
  let n := c.toNat
  let value :=
    if '0' ≤ c && c ≤ '9' then n - 48
    else if 'a' ≤ c && c ≤ 'z' then n - 87
    else if 'A' ≤ c && c ≤ 'Z' then n - 55
    else base
  if value < base then some value else none

/-- The number that digits of a base denote; there must be at least one. -/
def natural? (base : Nat) : List Char → Option Nat
  | [] => none
  | digits => digits.foldlM (fun total c => (digit? base c).map (total * base + ·)) 0

/-- The magnitude of a numeral without a sign: with the mark of its base, or decimal. -/
def magnitude? : List Char → Option Nat
  | '0' :: 'x' :: digits => natural? 16 digits
  | '0' :: 'o' :: digits => natural? 8 digits
  | '0' :: 'b' :: digits => natural? 2 digits
  | digits => natural? 10 digits

/-- One more than the greatest whole number of a hundred and twenty-eight bits. -/
def wideBound : Nat := 340282366920938463463374607431768211456

/-- The whole number that a text denotes, if it fits. -/
def integer? (cs : List Char) : Option Number :=
  if hasLeadingZero cs then none
  else
    match cs with
    | '-' :: digits => do
        let n ← magnitude? digits
        if n ≤ wideBound / 2 then some (.signed (-(n : Int))) else none
    | _ => do
        let n ← magnitude? (if cs.head? == some '+' then cs.drop 1 else cs)
        if n < wideBound then some (.unsigned n) else none

/-- The number, infinity or non-number that a text denotes. -/
def float? (text : String) : Option Binary64 :=
  let cs := text.toList
  let unsigned := if cs.head? == some '+' then cs.drop 1 else cs
  if cs.head? == some '+' && (unsigned.head? == some '+' || unsigned.head? == some '-') then none
  else
    let word := String.ofList unsigned
    if word == ".inf" || word == ".Inf" || word == ".INF" then some (.infinite false)
    else if text == "-.inf" || text == "-.Inf" || text == "-.INF" then some (.infinite true)
    else if text == ".nan" || text == ".NaN" || text == ".NAN" then some .nan
    else (Decimal.read? unsigned).filter Binary64.isFinite

/-- The tree of a plain text without a tag. -/
def plainTree (text : String) : Tree Unit :=
  if text == "" || isNullWord text then .null ()
  else
    match boolWord? text with
    | some value => .bool () value
    | none =>
        match integer? text.toList with
        | some number => .number () number
        | none =>
            match if hasLeadingZero text.toList then none else float? text with
            | some x => .number () (.float x)
            | none => .text () text

namespace Scalar

/-- The tree of a scalar, or what it was expected to be. The name of a variant has been
    dealt with before, so it says nothing about the scalar. -/
def toTree (scalar : Scalar) : Except String (Tree Unit) :=
  let untagged : Tree Unit :=
    if scalar.style == .plain then plainTree scalar.text else .text () scalar.text
  let checked (tree : Option (Tree Unit)) (expected : String) : Except String (Tree Unit) :=
    match tree with
    | some value => .ok value
    | none => .error expected
  match scalar.tag with
  | none | some (.variant _) | some .namelessVariant => .ok untagged
  | some .bool => checked ((boolWord? scalar.text).map (.bool ())) "a boolean"
  | some .int => checked ((integer? scalar.text.toList).map (.number ())) "an integer"
  | some .float => checked ((float? scalar.text).map fun x => .number () (.float x)) "a float"
  | some .null => checked (if isNullWord scalar.text then some (.null ()) else none) "null"
  | some .other => .ok (.text () scalar.text)

end Scalar

end LastGood.Yaml
