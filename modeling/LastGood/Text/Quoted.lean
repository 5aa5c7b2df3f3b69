import LastGood.Text.Hexadecimal
import LastGood.Text.Printable

/-!
# Quoted text

Messages quote the text they found. The quoted form stands between double quotes
and escapes the double quote and the backslash with a backslash. The tab, the
carriage return, the line feed and the null character have letters of their own;
every other character that is not printable is written as its code point in
braces. A single quote needs no escape.
-/

namespace LastGood.Text

/-- One character inside double quotes. -/
def quotedChar (c : Char) : List Char :=
  if c == '"' then ['\\', '"']
  else if c == '\\' then ['\\', '\\']
  else if c == '\t' then ['\\', 't']
  else if c == '\r' then ['\\', 'r']
  else if c == '\n' then ['\\', 'n']
  else if c.toNat == 0 then ['\\', '0']
  else if isPrintable c then [c]
  else ['\\', 'u', '\x7b'] ++ hexDigits c.toNat ++ ['\x7d']

/-- The quoted form of a text. -/
def quoted (s : String) : String :=
  String.ofList ('"' :: s.toList.flatMap quotedChar ++ ['"'])

end LastGood.Text
