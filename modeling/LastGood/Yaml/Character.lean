/-!
# Characters of YAML

The classes of characters that the syntax of YAML distinguishes. A line may be broken
by a carriage return, a line feed or both together, by the next-line character, and by
the separators of lines and of paragraphs. The end of the text counts as a break and as
a blank, so the classes are predicates on an optional character.
-/

namespace LastGood.Yaml

/-- Whether a character breaks a line. -/
def isBreakChar (c : Char) : Bool :=
  c == '\n' || c == '\r' || c == '\x85' || c == '\u2028' || c == '\u2029'

/-- Whether a character is a space or a tab. -/
def isBlankChar (c : Char) : Bool := c == ' ' || c == '\t'

/-- Whether there is a character and it breaks a line. -/
def isBreak (c : Option Char) : Bool := c.any isBreakChar

/-- Whether there is a character and it is a space or a tab. -/
def isBlank (c : Option Char) : Bool := c.any isBlankChar

/-- Whether a line ends here. -/
def isBreakOrEnd (c : Option Char) : Bool := c.all isBreakChar

/-- Whether a word ends here. -/
def isBlankOrEnd (c : Option Char) : Bool := c.all fun c => isBlankChar c || isBreakChar c

/-- Whether a character may stand in the name of an anchor or of a tag handle. -/
def isWordChar (c : Char) : Bool :=
  ('0' ≤ c && c ≤ '9') || ('A' ≤ c && c ≤ 'Z') || ('a' ≤ c && c ≤ 'z') || c == '_' || c == '-'

/-- Whether a character is a decimal digit. -/
def isDigitChar (c : Char) : Bool := '0' ≤ c && c ≤ '9'

/-- Whether a character may stand in a tag; in a tag between angle brackets a comma and
    square brackets may stand as well. -/
def isTagChar (verbatim : Bool) (c : Char) : Bool :=
  isWordChar c || ";/?:@&=+$.%!~*'()".toList.contains c ||
    (verbatim && ",[]".toList.contains c)

/-- Whether a text may hold the character at all: no control characters but the tab and
    those that break lines, and neither of the two non-characters that end the basic
    plane. -/
def isAllowed (c : Char) : Bool :=
  let n := c.toNat
  n == 0x09 || n == 0x0A || n == 0x0D || (0x20 ≤ n && n ≤ 0x7E) || n == 0x85 ||
  (0xA0 ≤ n && n ≤ 0xD7FF) || (0xE000 ≤ n && n ≤ 0xFFFD) || 0x10000 ≤ n

/-- What a line break stands for inside a scalar: every break of a single line is a line
    feed, the separators stay themselves. -/
def breakValue (c : Char) : Char := if c == '\u2028' || c == '\u2029' then c else '\n'

end LastGood.Yaml
