/-!
# Character classes of the language

The words, numbers and blanks of a program are ASCII. Every other character, also a letter or a
space of another script, belongs to no class of this module.
-/

namespace BoolWhile

namespace Text

/-- The six characters that separate tokens: space, tab, the line feed, the carriage return, the
form feed and the vertical tab. -/
def isBlank (c : Char) : Bool :=
  c = ' ' || c = '\t' || c = '\n' || c = '\r' || c = '\x0c' || c = '\x0b'

/-- An ASCII letter, the first character of a word. -/
def isLetter (c : Char) : Bool := c.isAlpha

/-- An ASCII digit. -/
def isDigit (c : Char) : Bool := c.isDigit

/-- A character that continues a word. -/
def isWordChar (c : Char) : Bool := isLetter c || isDigit c || c = '_'

end Text

end BoolWhile
