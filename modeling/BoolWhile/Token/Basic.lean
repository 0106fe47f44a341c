import BoolWhile.Location
import BoolWhile.Token.Kind

/-!
# Tokens

A token is a piece of a text with its kind and its place. Tokens may be made by hand, so the
spelling of a token is not bound to its kind.
-/

namespace BoolWhile

/-- A piece of a text with its kind and its place. -/
structure Token where
  kind : Kind
  /-- The characters of the token, as they stand in the text. -/
  lexeme : String
  location : Location
  deriving DecidableEq, Repr

namespace Token

/-- The kind and the lexeme, as token lists show them. -/
def display (t : Token) : String := s!"{t.kind.name}({Text.quoted t.lexeme})"

/-- Every field of a token. -/
def debug (t : Token) : String :=
  s!"Token({t.kind.name}, {Text.quoted t.lexeme}, {t.location.debug})"

/-- The kind and the lexeme, as error messages show them. -/
def describe (t : Token) : String := s!"{t.kind.name} {Text.quoted t.lexeme}"

/-- The place right after a token. -/
def endLocation (t : Token) : Location := t.location.shift t.lexeme.length

end Token

/-- Describes what stands where a token was looked for. -/
def describeFound : Option Token → String
  | none => "end of input"
  | some t => t.describe

/-- The place right after the last of some tokens; without tokens there is none. -/
def endOfTokens (tokens : List Token) : Option Location := tokens.getLast?.map Token.endLocation

end BoolWhile
