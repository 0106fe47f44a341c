import BoolWhile.Token.Basic

/-!
# The grammar of programs

The syntax trees of programs, with all their tokens. An expression has four levels of operators,
each of them grouping to the left; a statement is an expression or a `while` loop around
statements. A list of tokens is a program exactly if it is the list of the tokens of a tree, read
from left to right.
-/

namespace BoolWhile

namespace Grammar

/-- A token of a kind. -/
abbrev TokenOf (k : Kind) := { t : Token // t.kind = k }

/-- A token of one of several kinds. -/
abbrev TokenIn (kinds : Kind → Bool) := { t : Token // kinds t.kind = true }

/-! ### Expressions -/

mutual

inductive Primary
  | literal (t : TokenIn Kind.isLiteral)
  | group (opening : TokenOf .leftParen) (e : OrExpression) (closing : TokenOf .rightParen)

inductive NotExpression
  | primary (e : Primary)
  | not (op : TokenOf .logicalNot) (e : NotExpression)

inductive RelExpression
  | one (e : NotExpression)
  | more (left : RelExpression) (op : TokenIn Kind.isRelational) (right : NotExpression)

inductive AndExpression
  | one (e : RelExpression)
  | more (left : AndExpression) (op : TokenOf .logicalAnd) (right : RelExpression)

inductive OrExpression
  | one (e : AndExpression)
  | more (left : OrExpression) (op : TokenOf .logicalOr) (right : AndExpression)

end

mutual

/-- The tokens of an expression, from left to right. -/
def Primary.tokens : Primary → List Token
  | .literal t => [t.1]
  | .group opening e closing => opening.1 :: e.tokens ++ [closing.1]

@[inherit_doc Primary.tokens]
def NotExpression.tokens : NotExpression → List Token
  | .primary e => e.tokens
  | .not op e => op.1 :: e.tokens

@[inherit_doc Primary.tokens]
def RelExpression.tokens : RelExpression → List Token
  | .one e => e.tokens
  | .more left op right => left.tokens ++ op.1 :: right.tokens

@[inherit_doc Primary.tokens]
def AndExpression.tokens : AndExpression → List Token
  | .one e => e.tokens
  | .more left op right => left.tokens ++ op.1 :: right.tokens

@[inherit_doc Primary.tokens]
def OrExpression.tokens : OrExpression → List Token
  | .one e => e.tokens
  | .more left op right => left.tokens ++ op.1 :: right.tokens

end

/-- Expressions are on the level of the weakest operator. -/
abbrev Expression := OrExpression

/-! ### Statements -/

/-- The part of a `while` loop before its statements. -/
structure Header where
  keyword : TokenOf .whileWord
  openCondition : TokenOf .leftParen
  condition : Expression
  closeCondition : TokenOf .rightParen
  openBlock : TokenOf .leftBrace

/-- The tokens of a header. -/
def Header.tokens (h : Header) : List Token :=
  h.keyword.1 :: h.openCondition.1 :: h.condition.tokens ++ [h.closeCondition.1, h.openBlock.1]

mutual

inductive Statement
  | expression (e : Expression)
  | loop (header : Header) (body : Statements) (closeBlock : TokenOf .rightBrace)

/-- Statements one behind the other. -/
inductive Statements
  | nil
  | cons (first : Statement) (rest : Statements)

end

mutual

/-- The tokens of statements, from left to right. -/
def Statement.tokens : Statement → List Token
  | .expression e => e.tokens
  | .loop header body closeBlock => header.tokens ++ body.tokens ++ [closeBlock.1]

@[inherit_doc Statement.tokens]
def Statements.tokens : Statements → List Token
  | .nil => []
  | .cons first rest => first.tokens ++ rest.tokens

end

/-- The number of statements, those inside of them not counted. -/
def Statements.length : Statements → Nat
  | .nil => 0
  | .cons _ rest => rest.length + 1

end Grammar

end BoolWhile
