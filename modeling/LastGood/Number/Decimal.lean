import LastGood.Number.Binary64

/-!
# Decimal numerals

Reading: a decimal numeral has an optional sign, digits with at most one point
among or beside them, at least one digit in all, and an optional exponent.

Writing: three forms of the shortest digits are in use. The positional form never
uses an exponent and drops the point of a whole number. The pointed form is the
positional one with `.0` behind a whole number. The scientific form is pointed
between a ten-thousandth and ten to the sixteenth, and beyond has one digit before
the point and an exponent of at least two digits with its sign.
-/

namespace LastGood.Decimal

/-- Whether a character is a decimal digit of ASCII. -/
def isDigit (c : Char) : Bool := '0' ≤ c && c ≤ '9'

/-- The number that a run of decimal digits denotes. -/
def digitsValue (cs : List Char) : Nat :=
  cs.foldl (fun total c => total * 10 + (c.toNat - 48)) 0

/-- A sign in front of a numeral: whether it is a minus, and what follows it. -/
def signed : List Char → Bool × List Char
  | '-' :: rest => (true, rest)
  | '+' :: rest => (false, rest)
  | rest => (false, rest)

/-- The exponent at the end of a numeral: nothing, or `e` with a signed run of digits. -/
def exponent? : List Char → Option Int
  | [] => some 0
  | c :: rest =>
      if c == 'e' || c == 'E' then
        let (negative, digits) := signed rest
        if !digits.isEmpty && digits.all isDigit then
          let value := (digitsValue digits : Int)
          some (if negative then -value else value)
        else none
      else none

/-- The number that a decimal numeral denotes; `none` when the text is no numeral. -/
def read? (cs : List Char) : Option Binary64 :=
  let (negative, body) := signed cs
  let whole := body.takeWhile isDigit
  let afterWhole := body.dropWhile isDigit
  let (fraction, afterFraction) :=
    match afterWhole with
    | '.' :: rest => (rest.takeWhile isDigit, rest.dropWhile isDigit)
    | rest => ([], rest)
  if whole.isEmpty && fraction.isEmpty then none
  else (exponent? afterFraction).map fun power =>
    Binary64.ofDecimal negative (digitsValue (whole ++ fraction)) (power - (fraction.length : Int))

/-- The digits of a positive decimal `digits · 10 ^ power` without an exponent. -/
def positionalDigits (digits : Nat) (power : Int) : List Char :=
  let ds := Nat.toDigits 10 digits
  if 0 ≤ power then ds ++ List.replicate power.toNat '0'
  else
    let places := (-power).toNat
    if places < ds.length then
      ds.take (ds.length - places) ++ '.' :: ds.drop (ds.length - places)
    else '0' :: '.' :: List.replicate (places - ds.length) '0' ++ ds

/-- The sign of a number that is written. -/
def signText (negative : Bool) : List Char := if negative then ['-'] else []

/-- The positional form. -/
def positional : Binary64 → String
  | .nan => "NaN"
  | .infinite negative => String.ofList (signText negative ++ "inf".toList)
  | .finite negative significand exponent =>
      let (digits, power) := Binary64.shortest significand exponent
      String.ofList (signText negative ++ positionalDigits digits power)

/-- The pointed form. -/
def pointed (x : Binary64) : String :=
  let text := positional x
  if x.isFinite && !text.toList.contains '.' then text ++ ".0" else text

/-- The exponent of the scientific form. -/
def exponentText (power : Int) : List Char :=
  let digits := Nat.toDigits 10 power.natAbs
  let padded := if digits.length < 2 then '0' :: digits else digits
  'e' :: (if power < 0 then '-' else '+') :: padded

/-- The scientific form. -/
def scientific (x : Binary64) : String :=
  match x with
  | .finite negative significand exponent =>
      let (digits, power) := Binary64.shortest significand exponent
      let ds := Nat.toDigits 10 digits
      let lead := power + (ds.length : Int) - 1
      if digits == 0 || (-4 ≤ lead && lead ≤ 15) then pointed x
      else
        let mantissa :=
          match ds with
          | first :: second :: rest => first :: '.' :: second :: rest
          | short => short
        String.ofList (signText negative ++ mantissa ++ exponentText lead)
  | other => positional other

end LastGood.Decimal
