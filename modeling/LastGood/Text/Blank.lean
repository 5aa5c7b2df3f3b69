/-!
# Blank characters

Two sets of blank characters are in use. Free text is trimmed of every character
that Unicode calls white space; the small value language of the overrides skips
only the five blanks of ASCII, without the vertical tab. The first set contains the
second.
-/

namespace LastGood.Text

/-- White space in the sense of Unicode: the control characters from the tab to
    the carriage return, the space characters, and the line and paragraph marks. -/
def isBlank (c : Char) : Bool :=
  let n := c.toNat
  (0x09 ≤ n && n ≤ 0x0D) || n == 0x20 || n == 0x85 || n == 0xA0 || n == 0x1680 ||
  (0x2000 ≤ n && n ≤ 0x200A) || n == 0x2028 || n == 0x2029 || n == 0x202F ||
  n == 0x205F || n == 0x3000

/-- The blanks of ASCII: space, tab, line feed, form feed and carriage return. -/
def isAsciiBlank (c : Char) : Bool :=
  c == ' ' || c == '\t' || c == '\n' || c == '\x0c' || c == '\r'

/-- A list of characters without the blanks at its two ends. -/
def trimmed (cs : List Char) : List Char :=
  ((cs.dropWhile isBlank).reverse.dropWhile isBlank).reverse

end LastGood.Text
