import BoolWhile.Diagnostic.Character

/-!
# Syntax errors

A syntax error tells what was looked for and which token stands there instead. It is explained
like every diagnostic, with a hint on how to supply what is missing.
-/

namespace BoolWhile

/-- What to do about a missing token. -/
def missingSuggestions : Option Kind → List String
  | some .leftParen => ["Wrap the while condition in parentheses"]
  | some .rightParen => ["Add a closing parenthesis ')'"]
  | some .leftBrace => ["Add an opening brace '\x7b' to start a block"]
  | some .rightBrace => ["Add a closing brace '\x7d'"]
  | _ => []

/-- The codes of syntax errors, with what they mean. -/
def syntaxCodes : List (String × String) :=
  [("P001", "Unexpected token"), ("P010", "Unexpected end of input")]

/-- A program was rejected. -/
structure SyntaxError where
  /-- What was looked for. -/
  expected : String
  /-- The token that stands there, unless the program ends there. -/
  token : Option Token
  diagnostic : Diagnostic
  deriving DecidableEq, Repr

namespace SyntaxError

/-- An error with a message of its own. Without a location it is reported where its token is. -/
def withMessage (message expected : String) (token : Option Token) (location : Option Location)
    (code help : Option String) (suggestions : Option (List String)) : SyntaxError :=
  ⟨expected, token,
    ⟨message, location <|> token.map Token.location, "error", code, help, suggestions⟩⟩

/-- A token stands where something else was looked for. -/
def unexpectedToken (expected : String) (found : Token) (missing : Option Kind) : SyntaxError :=
  withMessage s!"Expected {expected}, found {found.describe}" expected found none "P001"
    (some (s!"The parser expected to see {expected} at this position, " ++
      s!"but found {Text.quoted found.lexeme} instead."))
    (some (missingSuggestions missing ++
      if found.kind = .unknown then operatorSuggestions found.lexeme else []))

/-- The program ends where something was looked for. -/
def unexpectedEnd (expected : String) (location : Option Location) (missing : Option Kind) :
    SyntaxError :=
  withMessage s!"Unexpected end of input, expected {expected}" expected none location "P010"
    (some s!"The parser reached the end of the input while expecting {expected}.")
    (some (missingSuggestions missing))

/-- Whether the program ends where something was looked for. -/
def atEnd (e : SyntaxError) : Bool := e.token.isNone

/-- An error as it is reported. -/
def text (e : SyntaxError) : String := e.diagnostic.text

/-- What the code of an error means. -/
def codeMeaning? (e : SyntaxError) : Option String :=
  e.diagnostic.code.bind fun code => syntaxCodes.lookup code

end SyntaxError

end BoolWhile
