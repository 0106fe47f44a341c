/-!
# Kinds of tokens

The language has twenty kinds of tokens: operators, delimiters, keywords, names, numbers, and one
kind for every character that belongs to nothing else.
-/

namespace BoolWhile

/-- What a token is. -/
inductive Kind
  | equal
  | notEqual
  | lessThan
  | lessEqual
  | greaterThan
  | greaterEqual
  | logicalAnd
  | logicalOr
  | logicalNot
  | leftParen
  | rightParen
  | leftBrace
  | rightBrace
  | trueWord
  | falseWord
  | ifWord
  | whileWord
  | identifier
  | number
  | unknown
  deriving DecidableEq, Repr

namespace Kind

/-- All kinds, in their order. -/
def all : List Kind :=
  [equal, notEqual, lessThan, lessEqual, greaterThan, greaterEqual, logicalAnd, logicalOr,
   logicalNot, leftParen, rightParen, leftBrace, rightBrace, trueWord, falseWord, ifWord,
   whileWord, identifier, number, unknown]

/-- The name of a kind in messages. -/
def name : Kind → String
  | equal => "EQUAL"
  | notEqual => "NOT_EQUAL"
  | lessThan => "LESS_THAN"
  | lessEqual => "LESS_EQUAL"
  | greaterThan => "GREATER_THAN"
  | greaterEqual => "GREATER_EQUAL"
  | logicalAnd => "LOGICAL_AND"
  | logicalOr => "LOGICAL_OR"
  | logicalNot => "LOGICAL_NOT"
  | leftParen => "LEFT_PAREN"
  | rightParen => "RIGHT_PAREN"
  | leftBrace => "LEFT_BRACE"
  | rightBrace => "RIGHT_BRACE"
  | trueWord => "TRUE"
  | falseWord => "FALSE"
  | ifWord => "IF"
  | whileWord => "WHILE"
  | identifier => "IDENTIFIER"
  | number => "NUMBER"
  | unknown => "UNKNOWN"

/-- The kind of a name. -/
def ofName? (s : String) : Option Kind := all.find? (·.name = s)

/-- The number of a kind, counted from one. -/
def code (k : Kind) : Nat := all.idxOf k + 1

@[simp] theorem mem_all (k : Kind) : k ∈ all := by cases k <;> decide

@[simp] theorem ofName?_name (k : Kind) : ofName? k.name = some k := by cases k <;> decide

/-! ### Classes of kinds -/

/-- The words of the language; `ifWord` is reserved and used by no rule. -/
def isKeyword : Kind → Bool
  | trueWord | falseWord | ifWord | whileWord => true
  | _ => false

/-- The comparison operators. -/
def isRelational : Kind → Bool
  | equal | notEqual | lessThan | lessEqual | greaterThan | greaterEqual => true
  | _ => false

/-- The operators on truth values. -/
def isLogical : Kind → Bool
  | logicalAnd | logicalOr | logicalNot => true
  | _ => false

/-- Parentheses and braces. -/
def isDelimiter : Kind → Bool
  | leftParen | rightParen | leftBrace | rightBrace => true
  | _ => false

/-- The kinds that are an expression on their own. -/
def isLiteral : Kind → Bool
  | trueWord | falseWord | identifier | number => true
  | _ => false

/-- The operators between two operands. -/
def isBinary : Kind → Bool
  | logicalAnd | logicalOr => true
  | k => k.isRelational

end Kind

end BoolWhile
