import BoolWhile.Diagnostic.Syntax
import BoolWhile.Recognition.Program
import BoolWhile.Token.OfText

/-!
# Places in a list of tokens

A cursor stands before a token of a list, or at or past its end. Parts of a program can be
recognized from any cursor. What is missing is reported by the token that stands in its place, or
by the end of the last token.
-/

namespace BoolWhile

/-- A place in a list of tokens. -/
structure Cursor where
  tokens : List Token
  index : Nat
  deriving DecidableEq, Repr

namespace Cursor

/-- The token behind a cursor. -/
def token? (c : Cursor) : Option Token := c.tokens[c.index]?

/-- Whether no token is behind a cursor. -/
def atEnd (c : Cursor) : Bool := c.tokens.length ≤ c.index

/-- Whether the token behind a cursor has one of some kinds. -/
def isAtAny (c : Cursor) (kinds : List Kind) : Bool := c.token?.any fun t => kinds.contains t.kind

/-- Whether the token behind a cursor has a kind. -/
def isAt (c : Cursor) (kind : Kind) : Bool := c.isAtAny [kind]

/-- The error that something is missing at a cursor. -/
def missing (c : Cursor) (expected : String) (kind? : Option Kind) : SyntaxError :=
  match c.token? with
  | some found => .unexpectedToken expected found kind?
  | none => .unexpectedEnd expected (endOfTokens c.tokens) kind?

/-- Moves a cursor over a token of a kind. -/
def read (c : Cursor) (kind : Kind) (expected : String) : Except SyntaxError Cursor :=
  if c.isAt kind then .ok ⟨c.tokens, c.index + 1⟩ else .error (c.missing expected kind)

/-- The kinds of the tokens behind a cursor. -/
def kinds (c : Cursor) : List Kind := (c.tokens.drop c.index).map Token.kind

/-- The cursor of a list of tokens that has as many tokens behind it as a rest. -/
def before (tokens : List Token) (rest : List Kind) : Cursor :=
  ⟨tokens, tokens.length - rest.length⟩

end Cursor

/-- The error of a list of tokens that is rejected at a place. -/
def Stuck.error (place : Stuck) (tokens : List Token) : SyntaxError :=
  (Cursor.before tokens place.unread).missing place.construct.description place.construct.kind?

/-- Moves a cursor over a part of a program that is recognized by kinds. -/
def Cursor.over (read : List Kind → Except Stuck (List Kind)) (c : Cursor) :
    Except SyntaxError Cursor :=
  match read c.kinds with
  | .ok rest => .ok (.before c.tokens rest)
  | .error place => .error (place.error c.tokens)

/-- Moves a cursor over an expression. -/
def Cursor.overExpression (c : Cursor) : Except SyntaxError Cursor := c.over readExpression

/-- Moves a cursor over a `while` loop up to its first statement. -/
def Cursor.overHeader (c : Cursor) : Except SyntaxError Cursor := c.over readHeader

/-- The number of statements outside all blocks of a program, or the error where the tokens are
rejected. -/
def countStatements (tokens : List Token) : Except SyntaxError Nat :=
  match readProgram (tokens.map Token.kind) with
  | .ok statements => .ok statements
  | .error place => .error (place.error tokens)

/-- The number of statements outside all blocks of the text of a program. -/
def countStatementsOfText (rule : KeywordRule) (filename source : String) :
    Except SyntaxError Nat :=
  countStatements (readTokens rule filename source)

/-- Whether a text is a program. -/
def isProgram (rule : KeywordRule) (source : String) : Bool :=
  (countStatementsOfText rule unnamed source).isOk

end BoolWhile
