import BoolWhile.Text.Hex
import BoolWhile.Text.Printable

/-!
# Quoted texts

Lexemes and file names are shown in messages between quotes. A quoted text stands on one line and
holds printable characters only: every other character is written as an escape.
-/

namespace BoolWhile

namespace Text

/-- The quote around a text: the apostrophe, unless the text has one and has no double quote. -/
def quoteFor (s : String) : Char :=
  if s.toList.contains '\'' && !s.toList.contains '"' then '"' else '\''

/-- One character inside a quoted text. The backslash and the quote in use are doubled by a
backslash, the tab and the two line-end characters have letters, and other characters that are not
printable are written by their code point. -/
def escape (quote c : Char) : List Char :=
  if c = '\\' ∨ c = quote then ['\\', c]
  else if c = '\n' then ['\\', 'n']
  else if c = '\r' then ['\\', 'r']
  else if c = '\t' then ['\\', 't']
  else if isPrintable c then [c]
  else if c.toNat < 0x100 then '\\' :: 'x' :: hexDigits 2 c.toNat
  else if c.toNat < 0x10000 then '\\' :: 'u' :: hexDigits 4 c.toNat
  else '\\' :: 'U' :: hexDigits 8 c.toNat

/-- A text between quotes. -/
def quoted (s : String) : String :=
  let quote := quoteFor s
  String.ofList (quote :: s.toList.flatMap (escape quote) ++ [quote])

/-- What stands for an absent value. -/
def absent : String := "None"

/-- A text between quotes, or the word for an absent one. -/
def quotedOrAbsent (s : Option String) : String := s.elim absent quoted

/-- Texts between brackets, each of them quoted. -/
def quotedList (texts : List String) : String :=
  "[" ++ ", ".intercalate (texts.map quoted) ++ "]"

end Text

end BoolWhile
