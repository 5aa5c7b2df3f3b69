/-!
# Hexadecimal numerals

Digits are written in lower case by default; the numerals with a fixed width are
padded with zeros on the left and never cut, so a number that needs more digits
than the width keeps them all. Reading accepts both cases.
-/

namespace LastGood.Text

/-- The digit of a number below sixteen, in lower case; larger numbers count
    modulo sixteen. -/
def hexDigit (n : Nat) : Char :=
  let d := n % 16
  if d < 10 then Char.ofNat (48 + d) else Char.ofNat (87 + d)

/-- The numeral of `n`, most significant digit first, without leading zeros. -/
def hexDigits (n : Nat) : List Char :=
  if n < 16 then [hexDigit n] else hexDigits (n / 16) ++ [hexDigit n]
termination_by n

/-- The numeral of `n`, padded with zeros to at least `width` digits. -/
def hexPadded (width n : Nat) : List Char :=
  let digits := hexDigits n
  List.replicate (width - digits.length) '0' ++ digits

/-- The same numeral with its letters in upper case. -/
def hexPaddedUpper (width n : Nat) : List Char :=
  (hexPadded width n).map Char.toUpper

/-- The value of one digit, in either case. -/
def hexValue? (c : Char) : Option Nat :=
  let n := c.toNat
  if 48 ≤ n && n ≤ 57 then some (n - 48)
  else if 97 ≤ n && n ≤ 102 then some (n - 87)
  else if 65 ≤ n && n ≤ 70 then some (n - 55)
  else none

/-- The value of a run of digits; `none` when one of them is no digit. The empty
    run has the value zero. -/
def hexNumber? (cs : List Char) : Option Nat :=
  cs.foldlM (fun total c => (hexValue? c).map (total * 16 + ·)) 0

/-- A byte as two digits. -/
def hexByte (b : UInt8) : List Char :=
  [hexDigit (b.toNat / 16), hexDigit b.toNat]

/-- The bytes of a run of digits, two digits a byte; `none` when a character is no
    digit or one digit is left over. -/
def hexBytes? : List Char → Option (List UInt8)
  | [] => some []
  | [_] => none
  | high :: low :: rest => do
      let h ← hexValue? high
      let l ← hexValue? low
      let bytes ← hexBytes? rest
      return UInt8.ofNat (h * 16 + l) :: bytes

end LastGood.Text
